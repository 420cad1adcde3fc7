import ClusterPlaybooks.Text.Address
import ClusterPlaybooks.Text.ByteOrder
import Mathlib.Data.List.TakeWhile
import Mathlib.Tactic.Ring

/-!
# Server identifiers of MySQL instances

The configuration template writes {lit}`server-id` as the port of the instance followed by the
last part of the inventory name.  Both are decimal numbers without a fixed width, and nothing
separates them.

Main results:

- Theorem {lit}`lastPart_text`: the filter gives the last octet of an address.
- Theorem {lit}`number_serverId`: the identifier as a number.
- Theorem {lit}`serverIds_legal_distinct_iff`: the identifiers of two instances of one network
  differ exactly if digits of an octet cannot be moved to the port.
-/

namespace ClusterPlaybooks
namespace Mysql

open Text

/-! ## The filter and the template line -/

/-- The pattern {lit}`(\d+)$`: digits up to the end of the text, or up to its last newline. -/
def digitsAtEnd (w : List Char) : Bool :=
  !(w.takeWhile Char.isDigit).isEmpty &&
    (w.dropWhile Char.isDigit == [] || w.dropWhile Char.isDigit == ['\n'])

/-- The filter {lit}`last_part`: the leftmost match of {lit}`\.(\d+)$`, without the dot. -/
def lastPart : List Char → Option (List Char)
  | [] => none
  | c :: w => if c == '.' && digitsAtEnd w then some (w.takeWhile Char.isDigit) else lastPart w

/-- The value of {lit}`server-id`; a missing last part is printed as {lit}`None`. -/
def serverId (mysqlPort : Nat) (inventoryHostname : String) : List Char :=
  Nat.toDigits 10 mysqlPort ++ (lastPart inventoryHostname.toList).getD "None".toList

/-- A MySQL instance: the inventory name of its host is an address. -/
structure Instance where
  host : Ipv4
  port : Nat
  port_pos : 1 ≤ port
  port_le : port ≤ 65535
deriving DecidableEq

/-- The addresses lie in the same network with 256 addresses. -/
def SameNetwork (x y : Ipv4) : Prop :=
  x.a = y.a ∧ x.b = y.b ∧ x.c = y.c

instance (x y : Ipv4) : Decidable (SameNetwork x y) :=
  inferInstanceAs (Decidable (_ ∧ _ ∧ _))

/-- The identifier written for an instance. -/
def Instance.serverId (i : Instance) : List Char :=
  Mysql.serverId i.port i.host.text

/-! ## The identifier as a number -/

/-- The digits of a number are digits up to the end. -/
private theorem digitsAtEnd_toDigits (n : Nat) : digitsAtEnd (Nat.toDigits 10 n) = true := by
  have hall := List.all_eq_true.mp (all_isDigit_toDigits n)
  have hne : Nat.toDigits 10 n ≠ [] := Nat.toDigits_ne_nil
  rw [digitsAtEnd, List.takeWhile_eq_self_iff.mpr hall, List.dropWhile_eq_nil_iff.mpr hall]
  simp [hne]

/-- A dot that more than digits follow is passed over. -/
private theorem digitsAtEnd_dot {w : List Char} (rest : List Char)
    (hw : ∀ c ∈ w, c.isDigit = true) :
    digitsAtEnd (w ++ '.' :: rest) = false := by
  have hdrop : (w ++ '.' :: rest).dropWhile Char.isDigit = '.' :: rest := by
    rw [List.dropWhile_append_of_pos hw]
    rfl
  simp [digitsAtEnd, hdrop]

/-- Letters other than dots are passed over. -/
private theorem lastPart_append {w rest : List Char} (hw : '.' ∉ w) :
    lastPart (w ++ rest) = lastPart rest := by
  induction w with
  | nil => rfl
  | cons c w ih =>
      have hc : c ≠ '.' := fun heq => hw (by simp [heq])
      have hrest : '.' ∉ w := fun hmem => hw (List.mem_cons_of_mem c hmem)
      simp [lastPart, hc, ih hrest]

/-- A part of the address that another one follows is passed over. -/
private theorem lastPart_part (n : Nat) (rest : List Char) :
    lastPart ('.' :: (Nat.toDigits 10 n ++ '.' :: rest)) = lastPart ('.' :: rest) := by
  have hpass := digitsAtEnd_dot rest (List.all_eq_true.mp (all_isDigit_toDigits n))
  rw [lastPart, hpass, Bool.and_false, if_neg (by simp),
    lastPart_append (notMem_toDigits (by decide) n)]

/-- The filter gives the last octet of an address. -/
theorem lastPart_text (x : Ipv4) : lastPart x.text.toList = some (Nat.toDigits 10 x.d.val) := by
  have htext : x.text.toList = Nat.toDigits 10 x.a.val ++ '.' :: (Nat.toDigits 10 x.b.val ++
      '.' :: (Nat.toDigits 10 x.c.val ++ '.' :: Nat.toDigits 10 x.d.val)) := by
    simp [Ipv4.text, Ipv4.octets, List.intercalate]
  have hself := List.takeWhile_eq_self_iff.mpr (List.all_eq_true.mp (all_isDigit_toDigits x.d.val))
  rw [htext, lastPart_append (notMem_toDigits (by decide) _), lastPart_part, lastPart_part,
    lastPart, digitsAtEnd_toDigits, hself]
  rfl

/-- The number of two decimal numbers that are written without a gap. -/
private theorem ofDigitChars_join (m n : Nat) :
    Nat.ofDigitChars 10 (Nat.toDigits 10 m ++ Nat.toDigits 10 n) 0 = m * 10 ^ digitCount n + n := by
  rw [Nat.ofDigitChars_append, Nat.ofDigitChars_eq_ofDigitChars_zero,
    Nat.ofDigitChars_ten_toDigits, Nat.ofDigitChars_ten_toDigits, digitCount, Nat.mul_comm]

/-- The identifier of an instance: the port is moved by the digits of the last octet. -/
def Instance.id (i : Instance) : Nat :=
  i.port * 10 ^ digitCount i.host.d + i.host.d

/-- The identifier as a number. -/
theorem number_serverId (i : Instance) : number i.serverId = some (i.id : Int) := by
  have htext : i.serverId = Nat.toDigits 10 i.port ++ Nat.toDigits 10 i.host.d := by
    rw [Instance.serverId, serverId, lastPart_text]
    rfl
  have hid : Nat.ofDigitChars 10 i.serverId 0 = i.id := by
    rw [htext, ofDigitChars_join, Instance.id]
  have hall : i.serverId.all Char.isDigit = true := by
    rw [htext, List.all_append, all_isDigit_toDigits, all_isDigit_toDigits]
    rfl
  have hne : i.serverId ≠ [] := by
    rw [htext]
    exact List.append_ne_nil_of_left_ne_nil Nat.toDigits_ne_nil _
  rw [number_of_all hne hall, hid]

/-- Every identifier is legal: it is positive and fits into 32 bits. -/
theorem id_legal (i : Instance) : 1 ≤ i.id ∧ i.id ≤ 2 ^ 32 - 1 := by
  have hpos := i.port_pos
  have hle := i.port_le
  have hoctet := i.host.d.isLt
  have hcount : digitCount i.host.d ≤ 3 := (digitCount_le_iff (by decide)).mpr (by omega)
  have hlow : 1 ≤ 10 ^ digitCount i.host.d := Nat.one_le_pow _ _ (by decide)
  have hhigh : 10 ^ digitCount i.host.d ≤ 10 ^ 3 := Nat.pow_le_pow_right (by decide) hcount
  have hmove : i.port * 10 ^ digitCount i.host.d ≤ 65535 * 10 ^ 3 := Nat.mul_le_mul hle hhigh
  have hkeep : 1 * 1 ≤ i.port * 10 ^ digitCount i.host.d := Nat.mul_le_mul hpos hlow
  rw [Instance.id]
  omega

/-! ## Digits that move from the octet to the port -/

/--
The first {lit}`k` digits of the octet, written after the port, give the other port, and the
digits that are left are the other octet, written without a zero in front.
-/
def Moved (i j : Instance) (k : Nat) : Prop :=
  j.port = i.port * 10 ^ k + i.host.d / 10 ^ (digitCount i.host.d - k) ∧
    j.host.d.val = i.host.d % 10 ^ (digitCount i.host.d - k) ∧
      digitCount j.host.d = digitCount i.host.d - k

instance (i j : Instance) (k : Nat) : Decidable (Moved i j k) :=
  inferInstanceAs (Decidable (_ ∧ _ ∧ _))

/-- One or two digits of the octet can be moved to the port. -/
def Ambiguous (i j : Instance) : Prop :=
  ∃ k < digitCount i.host.d, 0 < k ∧ Moved i j k

instance (i j : Instance) : Decidable (Ambiguous i j) :=
  inferInstanceAs (Decidable (∃ k < _, _ ∧ _))

/-- Moving digits keeps the identifier. -/
theorem id_eq_of_ambiguous {i j : Instance} (hmoved : Ambiguous i j) : i.id = j.id := by
  rcases hmoved with ⟨k, hk, _, hport, hoctet, hcount⟩
  have hsplit : 10 ^ digitCount i.host.d = 10 ^ k * 10 ^ (digitCount i.host.d - k) := by
    rw [← Nat.pow_add]
    congr 1
    omega
  have hdiv := Nat.div_add_mod i.host.d.val (10 ^ (digitCount i.host.d - k))
  rw [Instance.id, Instance.id, hport, hcount, hoctet, hsplit, Nat.add_mul, Nat.mul_assoc,
    Nat.add_assoc]
  congr 1
  rw [Nat.mul_comm (i.host.d.val / _)]
  exact hdiv.symm

/-- Equal identifiers with octets of different lengths come from moved digits. -/
theorem ambiguous_of_id_eq {i j : Instance} (hid : i.id = j.id)
    (hlt : digitCount j.host.d < digitCount i.host.d) : Ambiguous i j := by
  rcases Nat.exists_eq_add_of_lt hlt with ⟨d, hd⟩
  have hleft : digitCount i.host.d - (d + 1) = digitCount j.host.d := by omega
  have hsmall : j.host.d.val < 10 ^ digitCount j.host.d := lt_pow_digitCount _
  have hpos : 0 < 10 ^ digitCount j.host.d := Nat.pow_pos (by decide)
  have hsplit : i.id = i.host.d + 10 ^ digitCount j.host.d * (i.port * 10 ^ (d + 1)) := by
    rw [Instance.id, hd, Nat.add_assoc, Nat.pow_add]
    ring
  have hother : j.id = j.host.d + 10 ^ digitCount j.host.d * j.port := by
    rw [Instance.id]
    ring
  refine ⟨d + 1, ?_, Nat.succ_pos d, ?_, ?_, hleft.symm⟩
  · have hdigit := digitCount_pos j.host.d.val
    omega
  · have hdiv := congrArg (· / 10 ^ digitCount j.host.d) (hsplit.symm.trans (hid.trans hother))
    simp only [Nat.add_mul_div_left _ _ hpos, Nat.div_eq_of_lt hsmall] at hdiv
    rw [hleft]
    omega
  · have hmod := congrArg (· % 10 ^ digitCount j.host.d) (hsplit.symm.trans (hid.trans hother))
    simp only [Nat.add_mul_mod_self_left, Nat.mod_eq_of_lt hsmall] at hmod
    rw [hleft]
    exact hmod.symm

/-- Instances whose octets have the same length have different identifiers. -/
theorem eq_of_id_eq {i j : Instance} (hnet : SameNetwork i.host j.host) (hid : i.id = j.id)
    (hcount : digitCount i.host.d = digitCount j.host.d) : i = j := by
  have hsmall : i.host.d.val < 10 ^ digitCount j.host.d := hcount ▸ lt_pow_digitCount _
  have hsmall' : j.host.d.val < 10 ^ digitCount j.host.d := lt_pow_digitCount _
  have hpos : 0 < 10 ^ digitCount j.host.d := Nat.pow_pos (by decide)
  rw [Instance.id, Instance.id, hcount, Nat.add_comm, Nat.add_comm (j.port * _)] at hid
  have hport := congrArg (· / 10 ^ digitCount j.host.d) hid
  have hoctet := congrArg (· % 10 ^ digitCount j.host.d) hid
  simp only [Nat.add_mul_div_right _ _ hpos, Nat.div_eq_of_lt hsmall,
    Nat.div_eq_of_lt hsmall', Nat.zero_add] at hport
  simp only [Nat.add_mul_mod_self_right, Nat.mod_eq_of_lt hsmall,
    Nat.mod_eq_of_lt hsmall'] at hoctet
  rcases i with ⟨⟨a, b, c, d⟩, port, _, _⟩
  rcases j with ⟨⟨a', b', c', d'⟩, port', _, _⟩
  rcases hnet with ⟨ha, hb, hc⟩
  have hd : d = d' := Fin.ext hoctet
  simp only at hport ha hb hc
  subst hport ha hb hc hd
  rfl

/-- A text that MySQL takes as an identifier: a number that is positive and fits into 32 bits. -/
def LegalId (text : List Char) : Prop :=
  ∃ n : Int, number text = some n ∧ 1 ≤ n ∧ n ≤ 2 ^ 32 - 1

/-- Every instance gets a legal identifier. -/
theorem legalId_serverId (i : Instance) : LegalId i.serverId := by
  rcases id_legal i with ⟨hlow, hhigh⟩
  refine ⟨i.id, number_serverId i, ?_, ?_⟩
  · omega
  · omega

/--
The identifiers of two instances of one network are legal and different numbers exactly if
no digits can be moved from the octet of one to its port to give the other.
-/
theorem serverIds_legal_distinct_iff (i j : Instance) (hne : i ≠ j)
    (hnet : SameNetwork i.host j.host) :
    (LegalId i.serverId ∧ LegalId j.serverId ∧ number i.serverId ≠ number j.serverId) ↔
      ¬Ambiguous i j ∧ ¬Ambiguous j i := by
  rw [number_serverId, number_serverId]
  constructor
  · rintro ⟨_, _, hdiff⟩
    refine ⟨fun hmoved => hdiff ?_, fun hmoved => hdiff ?_⟩
    · rw [id_eq_of_ambiguous hmoved]
    · rw [id_eq_of_ambiguous hmoved]
  · rintro ⟨hij, hji⟩
    refine ⟨legalId_serverId i, legalId_serverId j, fun heq => ?_⟩
    have hid : i.id = j.id := by simpa using heq
    rcases Nat.lt_trichotomy (digitCount i.host.d) (digitCount j.host.d) with hlt | hcount | hgt
    · exact hji (ambiguous_of_id_eq hid.symm hlt)
    · exact hne (eq_of_id_eq hnet hid hcount)
    · exact hij (ambiguous_of_id_eq hid hgt)

/-- Two instances with ports of four digits have different identifiers. -/
theorem serverIds_legal_distinct_iff_four_digits :
    LegalId (Instance.mk ⟨192, 168, 56, 11⟩ 3306 (by decide) (by decide)).serverId ∧
    LegalId (Instance.mk ⟨192, 168, 56, 1⟩ 3307 (by decide) (by decide)).serverId ∧
      number (Instance.mk ⟨192, 168, 56, 11⟩ 3306 (by decide) (by decide)).serverId ≠
        number (Instance.mk ⟨192, 168, 56, 1⟩ 3307 (by decide) (by decide)).serverId :=
  (serverIds_legal_distinct_iff _ _ (by decide) (by decide)).mpr (by decide)

/-- Port 3306 on the host with octet 11 and port 33061 on the host with octet 1 collide. -/
theorem serverIds_collide :
    Ipv4.text ⟨192, 168, 56, 11⟩ = "192.168.56.11" ∧ Ipv4.text ⟨192, 168, 56, 1⟩ = "192.168.56.1" ∧
      SameNetwork ⟨192, 168, 56, 11⟩ ⟨192, 168, 56, 1⟩ ∧
      number (serverId 3306 "192.168.56.11") = some 330611 ∧
      number (serverId 33061 "192.168.56.1") = some 330611 := by
  decide

end Mysql
end ClusterPlaybooks
