import ApiClient.Text.Percent
import Mathlib.Data.Option.Basic
import Mathlib.Tactic.Common

/-!
# Percent encoding

A character that is not written as itself is written octet by octet, and the octets of a text in
characters are read back as these characters. So an encoded text is read back, and it has no mark
that could end a segment of an address or begin a placeholder.
-/

namespace ApiClient.Text

/-! ## Octets of characters -/

theorem toNat_octet {n : ℕ} (h : n < 256) : (UInt8.ofNat n).toNat = n := Nat.mod_eq_of_lt h

theorem octet_lt_iff {n : ℕ} (h : n < 256) (b : UInt8) : UInt8.ofNat n < b ↔ n < b.toNat := by
  rw [UInt8.lt_iff_toNat_lt, toNat_octet h]

theorem continuation?_octet {n : ℕ} (h : n < 64) :
    continuation? (UInt8.ofNat (n + 0x80)) = some n := by
  have hoctet : n + 0x80 < 256 := by omega
  unfold continuation?
  rw [toNat_octet hoctet, Nat.add_sub_cancel, if_pos]
  rw [octet_lt_iff hoctet, UInt8.le_iff_toNat_le, toNat_octet hoctet]
  exact ⟨Nat.le_add_left _ _, Nat.add_lt_add_right h _⟩

theorem pointAtLeast?_of_isPoint {least n : ℕ} (hleast : least ≤ n) (hn : IsPoint n) :
    pointAtLeast? least n = some n := if_pos ⟨hleast, hn⟩

section

variable {n a b c d : ℕ} (rest : List UInt8)

theorem decodePoints?_one (hn : n < 0x80) :
    decodePoints? (UInt8.ofNat n :: rest) = (decodePoints? rest).map (n :: ·) := by
  have hoctet : n < 256 := by omega
  rw [decodePoints?.eq_def]
  simp only [octet_lt_iff hoctet, toNat_octet hoctet, UInt8.reduceToNat]
  rw [if_pos hn]

theorem decodePoints?_two (ha : a < 0x20) (hb : b < 0x40) (hleast : 0x80 ≤ 64 * a + b) :
    decodePoints? (UInt8.ofNat (a + 0xC0) :: UInt8.ofNat (b + 0x80) :: rest) =
      (decodePoints? rest).map ((64 * a + b) :: ·) := by
  have hoctet : a + 0xC0 < 256 := by omega
  have hpoint : IsPoint (64 * a + b) := by unfold IsPoint; omega
  rw [decodePoints?.eq_def]
  simp only [octet_lt_iff hoctet, toNat_octet hoctet, UInt8.reduceToNat, continuation?_octet hb]
  rw [if_neg (by omega), if_neg (by omega), if_pos (by omega), Nat.add_sub_cancel]
  simp [pointAtLeast?_of_isPoint hleast hpoint, Option.map_eq_bind]

theorem decodePoints?_three (ha : a < 0x10) (hb : b < 0x40) (hc : c < 0x40)
    (hleast : 0x800 ≤ 4096 * a + 64 * b + c) :
    decodePoints? (UInt8.ofNat (a + 0xE0) :: UInt8.ofNat (b + 0x80) :: UInt8.ofNat (c + 0x80) ::
      rest) = (decodePoints? rest).map ((4096 * a + 64 * b + c) :: ·) := by
  have hoctet : a + 0xE0 < 256 := by omega
  have hpoint : IsPoint (4096 * a + 64 * b + c) := by unfold IsPoint; omega
  rw [decodePoints?.eq_def]
  simp only [octet_lt_iff hoctet, toNat_octet hoctet, UInt8.reduceToNat, continuation?_octet hb,
    continuation?_octet hc]
  rw [if_neg (by omega), if_neg (by omega), if_neg (by omega), if_pos (by omega),
    Nat.add_sub_cancel]
  simp [pointAtLeast?_of_isPoint hleast hpoint, Option.map_eq_bind]

theorem decodePoints?_four (ha : a < 0x8) (hb : b < 0x40) (hc : c < 0x40) (hd : d < 0x40)
    (hleast : 0x10000 ≤ 262144 * a + 4096 * b + 64 * c + d)
    (hpoint : IsPoint (262144 * a + 4096 * b + 64 * c + d)) :
    decodePoints? (UInt8.ofNat (a + 0xF0) :: UInt8.ofNat (b + 0x80) :: UInt8.ofNat (c + 0x80) ::
      UInt8.ofNat (d + 0x80) :: rest) =
        (decodePoints? rest).map ((262144 * a + 4096 * b + 64 * c + d) :: ·) := by
  have hoctet : a + 0xF0 < 256 := by omega
  rw [decodePoints?.eq_def]
  simp only [octet_lt_iff hoctet, toNat_octet hoctet, UInt8.reduceToNat, continuation?_octet hb,
    continuation?_octet hc, continuation?_octet hd]
  rw [if_neg (by omega), if_neg (by omega), if_neg (by omega), if_neg (by omega),
    Nat.add_sub_cancel]
  simp [pointAtLeast?_of_isPoint hleast hpoint, Option.map_eq_bind]

end

/-- The octets of a character are read as its point. -/
theorem decodePoints?_utf8EncodeChar_append (c : Char) (rest : List UInt8) :
    decodePoints? (String.utf8EncodeChar c ++ rest) =
      (decodePoints? rest).map (c.toNat :: ·) := by
  have hpoint : c.val.toNat < 0x110000 := isPoint_toNat c
  change _ = (decodePoints? rest).map (c.val.toNat :: ·)
  unfold String.utf8EncodeChar
  generalize c.val.toNat = n at hpoint
  simp only
  split
  · next h => exact decodePoints?_one rest (Nat.lt_succ_of_le h)
  · split
    · have hn : 64 * (n / 64 % 0x20) + n % 0x40 = n := by omega
      have htwo := decodePoints?_two (a := n / 64 % 0x20) (b := n % 0x40) rest (by omega) (by omega)
        (by omega)
      rwa [hn] at htwo
    · split
      · have hn : 4096 * (n / 4096 % 0x10) + 64 * (n / 64 % 0x40) + n % 0x40 = n := by omega
        have hthree := decodePoints?_three (a := n / 4096 % 0x10) (b := n / 64 % 0x40)
          (c := n % 0x40) rest (by omega) (by omega) (by omega) (by omega)
        rwa [hn] at hthree
      · have hn : 262144 * (n / 262144 % 0x08) + 4096 * (n / 4096 % 0x40) + 64 * (n / 64 % 0x40) +
          n % 0x40 = n := by omega
        have hfour := decodePoints?_four (a := n / 262144 % 0x08) (b := n / 4096 % 0x40)
          (c := n / 64 % 0x40) (d := n % 0x40) rest (by omega) (by omega) (by omega) (by omega)
          (by omega) (by unfold IsPoint; omega)
        rwa [hn] at hfour

theorem decodePoints?_encodeUtf8 (cs : List Char) :
    decodePoints? (encodeUtf8 cs) = some (cs.map Char.toNat) := by
  induction cs with
  | nil => rfl
  | cons c cs ih =>
    rw [encodeUtf8, List.flatMap_cons, decodePoints?_utf8EncodeChar_append, ← encodeUtf8, ih]
    rfl

/-- What was written as octets is read back. -/
theorem decodeUtf8?_encodeUtf8 (cs : List Char) : decodeUtf8? (encodeUtf8 cs) = some cs := by
  unfold decodeUtf8?
  rw [decodePoints?_encodeUtf8]
  change (cs.map Char.toNat).mapM char? = some cs
  induction cs with
  | nil => rfl
  | cons c cs ih => simp [char?_toNat, ih]

/-! ## Percent signs -/

theorem hexValue?_upperHexDigit : ∀ n < 16, hexValue? (upperHexDigit n) = some n := by decide

theorem percentOctets_percentOctet_append (b : UInt8) (cs : List Char) :
    percentOctets (percentOctet b ++ cs) = b :: percentOctets cs := by
  have hb : b.toNat < 256 := b.toNat_lt
  have hhigh := hexValue?_upperHexDigit (b.toNat / 16) (by omega)
  have hlow := hexValue?_upperHexDigit (b.toNat % 16) (by omega)
  have hoctet : UInt8.ofNat (16 * (b.toNat / 16) + b.toNat % 16) = b := by
    rw [Nat.div_add_mod, UInt8.ofNat_toNat]
  simp only [percentOctet, List.cons_append, List.nil_append, percentOctets, hhigh, hlow, hoctet]

theorem percentOctets_cons {c : Char} (hc : c ≠ '%') (cs : List Char) :
    percentOctets (c :: cs) = String.utf8EncodeChar c ++ percentOctets cs := by
  rw [percentOctets]
  rintro a b cs rfl
  exact absurd rfl hc

theorem percentOctets_percentChar_append (c : Char) (cs : List Char) :
    percentOctets (percentChar c ++ cs) = String.utf8EncodeChar c ++ percentOctets cs := by
  unfold percentChar
  split
  · next hkept =>
    refine percentOctets_cons ?_ cs
    rintro rfl
    exact absurd hkept (by decide)
  · induction String.utf8EncodeChar c with
    | nil => rfl
    | cons b octets ih =>
      rw [List.flatMap_cons, List.append_assoc, percentOctets_percentOctet_append, ih,
        List.cons_append]

theorem percentOctets_percentEncode (cs : List Char) :
    percentOctets (percentEncode cs) = encodeUtf8 cs := by
  induction cs with
  | nil => rfl
  | cons c cs ih =>
    rw [percentEncode, List.flatMap_cons, percentOctets_percentChar_append, ← percentEncode, ih]
    rfl

/-- What was percent-encoded is read back. -/
theorem percentDecode?_percentEncode (cs : List Char) :
    percentDecode? (percentEncode cs) = some cs := by
  rw [percentDecode?, percentOctets_percentEncode, decodeUtf8?_encodeUtf8]

theorem isUnescaped_upperHexDigit : ∀ n < 16, isUnescaped (upperHexDigit n) = true := by decide

/-- An encoded text consists of percent signs and of characters that stand for themselves. -/
theorem isUnescaped_of_mem_percentEncode {cs : List Char} {c : Char} (h : c ∈ percentEncode cs) :
    c = '%' ∨ isUnescaped c = true := by
  obtain ⟨d, -, hc⟩ := List.mem_flatMap.1 h
  unfold percentChar at hc
  split at hc
  · next hkept =>
    rw [List.mem_singleton.1 hc]
    exact .inr hkept
  · obtain ⟨b, -, hc⟩ := List.mem_flatMap.1 hc
    have hb : b.toNat < 256 := b.toNat_lt
    unfold percentOctet at hc
    rcases List.mem_cons.1 hc with rfl | hc
    · exact .inl rfl
    rcases List.mem_cons.1 hc with rfl | hc
    · exact .inr (isUnescaped_upperHexDigit _ (by omega))
    · rw [List.mem_singleton.1 hc]
      exact .inr (isUnescaped_upperHexDigit _ (by omega))

/-- What has to be escaped does not occur in an encoded text. -/
theorem not_mem_percentEncode {c : Char} (hsign : c ≠ '%') (hescaped : isUnescaped c = false)
    (cs : List Char) : c ∉ percentEncode cs := by
  intro hmem
  rcases isUnescaped_of_mem_percentEncode hmem with hpercent | hkept
  · exact hsign hpercent
  · rw [hescaped] at hkept
    cases hkept

end ApiClient.Text
