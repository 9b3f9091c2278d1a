import Mathlib.Data.List.TakeWhile

/-!
# Numbers and addresses as text

What the standard library reads of a number and of the address of a socket, and that it
reads back what it wrote.
-/

namespace NumberText

/-! ## Integers -/

/-- The digits that follow what is read already. -/
def readDigits (low high sign : Int) : Int → List Char → Except String Int
  | value, [] => .ok value
  | value, c :: rest =>
    let next := value * 10 + sign * (c.toNat - '0'.toNat : Nat)
    if !c.isDigit then .error "invalid digit found in string"
    else if high < next then .error "number too large to fit in target type"
    else if next < low then .error "number too small to fit in target type"
    else readDigits low high sign next rest

/-- `str::parse` of a type whose values lie between two bounds. -/
def parseInt (low high : Int) (text : String) : Except String Int :=
  match text.toList with
  | [] => .error "cannot parse integer from empty string"
  | ['+'] | ['-'] => .error "invalid digit found in string"
  | '+' :: digits => readDigits low high 1 0 digits
  | '-' :: digits => if low < 0 then readDigits low high (-1) 0 digits else .error "invalid digit found in string"
  | digits => readDigits low high 1 0 digits

theorem ofDigitChars_grows (digits : List Char) (value : Nat) : value ≤ Nat.ofDigitChars 10 digits value := by
  induction digits generalizing value with
  | nil => exact Nat.le_of_eq Nat.ofDigitChars_nil.symm
  | cons c rest ih =>
    rw [Nat.ofDigitChars_cons]
    have later := ih (10 * value + (c.toNat - '0'.toNat))
    omega

theorem readDigits_digits {low high : Int} {digits : List Char} (all : ∀ c ∈ digits, c.isDigit = true) (value : Nat)
    (small : low ≤ 0) (fits : (Nat.ofDigitChars 10 digits value : Int) ≤ high) :
    readDigits low high 1 value digits = .ok (Nat.ofDigitChars 10 digits value : Int) := by
  induction digits generalizing value with
  | nil => rfl
  | cons c rest ih =>
    rw [Nat.ofDigitChars_cons] at fits ⊢
    have grows := ofDigitChars_grows rest (10 * value + (c.toNat - '0'.toNat))
    have next : (value : Int) * 10 + 1 * (c.toNat - '0'.toNat : Nat) = (10 * value + (c.toNat - '0'.toNat) : Nat) := by
      push_cast
      omega
    have here : c.isDigit = true := all c List.mem_cons_self
    simp only [readDigits, here, next, Bool.not_true, Bool.false_eq_true, if_false]
    rw [if_neg (by omega), if_neg (by omega)]
    exact ih (fun d member => all d (List.mem_cons_of_mem c member)) _ fits

theorem digits_of_toDigits (n : Nat) : ∀ c ∈ Nat.toDigits 10 n, c.isDigit = true := fun _ member =>
  Nat.isDigit_of_mem_toDigits (by decide) (by decide) member

/-- A number that fits is read back from its text. -/
theorem parseInt_toString {low high : Int} (small : low ≤ 0) (n : Nat) (fits : (n : Int) ≤ high) :
    parseInt low high (toString n) = .ok (n : Int) := by
  have text : (toString n).toList = Nat.toDigits 10 n := by
    rw [Nat.toString_eq_ofList_toDigits, String.toList_ofList]
  have all := digits_of_toDigits n
  have filled : Nat.toDigits 10 n ≠ [] := Nat.toDigits_ne_nil
  have reads : readDigits low high 1 0 (Nat.toDigits 10 n) = .ok (Nat.ofDigitChars 10 (Nat.toDigits 10 n) 0 : Int) :=
    readDigits_digits all 0 small (by rwa [Nat.ofDigitChars_ten_toDigits])
  rw [Nat.ofDigitChars_ten_toDigits] at reads
  unfold parseInt
  rw [text]
  split
  case h_1 nothing => exact absurd nothing filled
  case h_2 sign => exact absurd (all '+' (by rw [sign]; exact List.mem_cons_self)) (by decide)
  case h_3 sign => exact absurd (all '-' (by rw [sign]; exact List.mem_cons_self)) (by decide)
  case h_4 sign => exact absurd (all '+' (by rw [sign]; exact List.mem_cons_self)) (by decide)
  case h_5 sign => exact absurd (all '-' (by rw [sign]; exact List.mem_cons_self)) (by decide)
  case h_6 => exact reads

/-! ## Addresses of sockets -/

/-- An address of the first kind, or one of the other. -/
inductive SocketAddr (V6 : Type) where
  | v4 (octets : List Nat) (port : Nat)
  | v6 (address : V6)

/-- A number at the start of the text, and what follows it. -/
def readNumber (maxDigits : Option Nat) (zeros : Bool) (high : Nat) (text : List Char) : Option (Nat × List Char) :=
  let digits := text.takeWhile Char.isDigit
  let value := Nat.ofDigitChars 10 digits 0
  if digits = [] ∨ (maxDigits.any fun most => most < digits.length) = true ∨
      (zeros = false ∧ digits.head? = some '0' ∧ 1 < digits.length) ∨ high < value then none
  else some (value, text.dropWhile Char.isDigit)

def readGiven (c : Char) (text : List Char) : Option (List Char) := if text.head? = some c then some text.tail else none

/-- The numbers of an address, one fewer than the dots before them. -/
def readOctets : Nat → List Char → Option (List Nat × List Char)
  | 0, text => some ([], text)
  | more + 1, text => do
    let text ← readGiven '.' text
    let (octet, text) ← readNumber (some 3) false 255 text
    let (octets, text) ← readOctets more text
    pure (octet :: octets, text)

def readIpv4 (text : List Char) : Option (List Nat × List Char) := do
  let (octet, text) ← readNumber (some 3) false 255 text
  let (octets, text) ← readOctets 3 text
  pure (octet :: octets, text)

def readSocketAddrV4 {V6 : Type} (text : List Char) : Option (SocketAddr V6 × List Char) := do
  let (octets, text) ← readIpv4 text
  let text ← readGiven ':' text
  let (port, text) ← readNumber none true 65535 text
  pure (.v4 octets port, text)

/-- `SocketAddr::from_str`, with the reader of the addresses of the other kind. -/
def SocketAddr.fromStr {V6 : Type} (readV6 : List Char → Option (V6 × List Char)) (text : String) :
    Except String (SocketAddr V6) :=
  let read := readSocketAddrV4 text.toList <|> (readV6 text.toList).map fun (address, rest) => (.v6 address, rest)
  match read with
  | some (address, []) => .ok address
  | _ => .error "invalid socket address syntax"

theorem readNumber_all {digits : List Char} (all : ∀ c ∈ digits, c.isDigit = true) (filled : digits ≠ []) {high : Nat}
    (fits : Nat.ofDigitChars 10 digits 0 ≤ high) :
    readNumber none true high digits = some (Nat.ofDigitChars 10 digits 0, []) := by
  have taken : digits.takeWhile Char.isDigit = digits := List.takeWhile_eq_self_iff.mpr all
  have dropped : digits.dropWhile Char.isDigit = [] := List.dropWhile_eq_nil_iff.mpr all
  unfold readNumber
  rw [taken, dropped, if_neg]
  rintro (nothing | most | ⟨never, _⟩ | large)
  · exact filled nothing
  · cases most
  · cases never
  · omega

/-- The address of every interface is read back, with its port. -/
theorem fromStr_unspecified {V6 : Type} (readV6 : List Char → Option (V6 × List Char)) {port : Nat} (small : port < 65536) :
    SocketAddr.fromStr readV6 s!"0.0.0.0:{port}" = .ok (.v4 [0, 0, 0, 0] port) := by
  have text : (s!"0.0.0.0:{port}").toList = "0.0.0.0:".toList ++ Nat.toDigits 10 port := by
    rw [← Nat.toList_repr]
    simp [toString, String.toList_append]
  have host : readIpv4 ("0.0.0.0:".toList ++ Nat.toDigits 10 port) = some ([0, 0, 0, 0], ':' :: Nat.toDigits 10 port) := rfl
  have number : readNumber none true 65535 (Nat.toDigits 10 port) = some (port, []) := by
    have fits : Nat.ofDigitChars 10 (Nat.toDigits 10 port) 0 ≤ 65535 := by
      rw [Nat.ofDigitChars_ten_toDigits]
      omega
    rw [readNumber_all (digits_of_toDigits port) Nat.toDigits_ne_nil fits, Nat.ofDigitChars_ten_toDigits]
  have read : readSocketAddrV4 ("0.0.0.0:".toList ++ Nat.toDigits 10 port) =
      some ((.v4 [0, 0, 0, 0] port : SocketAddr V6), []) := by
    simp only [readSocketAddrV4, host, number, readGiven, Option.bind_eq_bind, Option.bind_some, List.head?_cons,
      List.tail_cons, if_true, Option.pure_def]
  unfold SocketAddr.fromStr
  rw [text, read]
  rfl

end NumberText
