import ClusterPlaybooks.Text.Shell

/-!
# Network addresses as texts

Host identifiers are computed from the text of an address: the text is split at
its dots, the fourth part is read as a number, and the sign is dropped.  The
number filter reads an optional sign and decimal digits and gives zero for every
other text.

Main results:

- Theorem {lit}`Ipv4.split_text`: the parts of an address are its four octets.
- Theorem {lit}`lastOctet_text`: the identifier of an address is its last octet.
- Theorem {lit}`isIpv4_iff`: the address test accepts exactly the addresses.
-/

namespace ClusterPlaybooks
namespace Text

/-- An address of version four. -/
structure Ipv4 where
  a : Fin 256
  b : Fin 256
  c : Fin 256
  d : Fin 256
deriving DecidableEq, Repr

/-- The octets of an address, written in decimal. -/
def Ipv4.octets (x : Ipv4) : List (List Char) :=
  [x.a, x.b, x.c, x.d].map fun o => Nat.toDigits 10 o.val

/-- The dotted text of an address. -/
def Ipv4.text (x : Ipv4) : String :=
  String.ofList (['.'].intercalate x.octets)

/-- The filter {lit}`int`: sign and digits are read as a number, other texts are zero. -/
def intFilter : List Char → Int
  | [] => 0
  | '-' :: w => if w ≠ [] ∧ w.all Char.isDigit then -(Nat.ofDigitChars 10 w 0 : Int) else 0
  | '+' :: w => if w ≠ [] ∧ w.all Char.isDigit then Nat.ofDigitChars 10 w 0 else 0
  | w => if w.all Char.isDigit then Nat.ofDigitChars 10 w 0 else 0

/-- The expression {lit}`ip.split('.')[3] | int | abs`; without a fourth part it is an error. -/
def lastOctet (ip : String) : Option Nat :=
  (ip.toList.splitOn '.')[3]?.map fun w => (intFilter w).natAbs

/-- Read one octet. -/
def parseOctet (w : List Char) : Option (Fin 256) :=
  if hlt : Nat.ofDigitChars 10 w 0 < 256 then some ⟨Nat.ofDigitChars 10 w 0, hlt⟩ else none

/-- Read four octets. -/
def parseOctets : List (List Char) → Option Ipv4
  | [a, b, c, d] => do
      return ⟨← parseOctet a, ← parseOctet b, ← parseOctet c, ← parseOctet d⟩
  | _ => none

/-- The filter {lit}`ipv4` on host names: the name is the text of an address. -/
def isIpv4 (name : String) : Bool :=
  match parseOctets (name.toList.splitOn '.') with
  | some x => x.text == name
  | none => false

/-! ## Splitting and reading back -/

/-- The parts of an address are its four octets. -/
theorem Ipv4.split_text (x : Ipv4) : x.text.toList.splitOn '.' = x.octets := by
  rw [Ipv4.text, String.toList_ofList]
  apply List.splitOn_intercalate
  · intro w hw
    rcases List.mem_map.mp hw with ⟨o, _, rfl⟩
    exact notMem_toDigits (by decide) o.val
  · simp [Ipv4.octets]

/-- The number filter reads back a decimal number. -/
theorem intFilter_toDigits (n : Nat) : intFilter (Nat.toDigits 10 n) = n := by
  have hall := all_isDigit_toDigits n
  have hread : Nat.ofDigitChars 10 (Nat.toDigits 10 n) 0 = n := Nat.ofDigitChars_ten_toDigits
  generalize Nat.toDigits 10 n = w at hall hread
  unfold intFilter
  split
  · rw [← hread]
    rfl
  · simp at hall
  · simp at hall
  · rw [if_pos hall, hread]

/-- Different numbers have different texts. -/
theorem toString_injective {m n : Nat} (htext : toString m = toString n) : m = n := by
  have hlist := congrArg String.toList htext
  exact toDigits_injective (by simpa using hlist)

/-- The identifier of an address is its last octet. -/
theorem lastOctet_text (x : Ipv4) : lastOctet x.text = some x.d.val := by
  rw [lastOctet, Ipv4.split_text]
  simp [Ipv4.octets, intFilter_toDigits]

/-- Octets are read back. -/
private theorem parseOctet_toDigits (o : Fin 256) :
    parseOctet (Nat.toDigits 10 o.val) = some o := by
  have hread : Nat.ofDigitChars 10 (Nat.toDigits 10 o.val) 0 = o.val :=
    Nat.ofDigitChars_ten_toDigits
  simp [parseOctet, hread]

/-- Addresses are read back. -/
theorem parseOctets_octets (x : Ipv4) : parseOctets x.octets = some x := by
  simp [parseOctets, Ipv4.octets, parseOctet_toDigits]

/-- The address test accepts exactly the addresses. -/
theorem isIpv4_iff (name : String) : isIpv4 name = true ↔ ∃ x : Ipv4, x.text = name := by
  constructor
  · intro hname
    unfold isIpv4 at hname
    split at hname
    · rename_i x _
      exact ⟨x, by simpa using hname⟩
    · cases hname
  · rintro ⟨x, rfl⟩
    simp [isIpv4, Ipv4.split_text, parseOctets_octets]

example : lastOctet "192.168.56.111" = some 111 := by decide

example : isIpv4 "zookeeper1.localhost" = false := by decide

end Text
end ClusterPlaybooks
