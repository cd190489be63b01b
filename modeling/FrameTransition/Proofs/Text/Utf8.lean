import FrameTransition.FileSystem
import Mathlib.Data.List.Basic
import Mathlib.Tactic.SplitIfs

/-!
# Bytes that are text

Decoding is the inverse of encoding: `decode?_eq_ok_iff` says that the bytes that are decoded are those that
some text is encoded as, and that this is the text. It rests on one step: what is read in front of bytes is a
character just if the bytes begin with that character's own (`next_encoded`, `encoded_of_next`).

The ranges of lead and second bytes are turned into ranges of numbers first, so that the rest is arithmetic.
-/

namespace FrameTransition

namespace Utf8

variable {c : Char} {lead second : UInt8} {rest bytes : List UInt8} {text : List Char} {size : Nat}

/-! ## Ranges of bytes -/

theorem toNat_byte {n : Nat} (h : n < 256) : (UInt8.ofNat n).toNat = n :=
  UInt8.toNat_ofNat_of_lt h

/-- How a lead byte is taken, by its value. -/
theorem announced?_cases (lead : UInt8) :
    (lead.toNat < 0x80 ∧ announced? lead = some 1) ∨
      (0xC2 ≤ lead.toNat ∧ lead.toNat ≤ 0xDF ∧ announced? lead = some 2) ∨
      (0xE0 ≤ lead.toNat ∧ lead.toNat ≤ 0xEF ∧ announced? lead = some 3) ∨
      (0xF0 ≤ lead.toNat ∧ lead.toNat ≤ 0xF4 ∧ announced? lead = some 4) ∨
      announced? lead = none ∧ 0x80 ≤ lead.toNat ∧ (lead.toNat < 0xC2 ∨ 0xF4 < lead.toNat) := by
  unfold announced?
  simp only [UInt8.lt_iff_toNat_lt, UInt8.le_iff_toNat_le, UInt8.reduceToNat]
  split_ifs <;> simp <;> omega

/-- The range of a second byte keeps out what is written shorter, surrogates, and what is beyond the last
plane. -/
theorem mem_secondRange_iff :
    (secondRange lead).1 ≤ second ∧ second ≤ (secondRange lead).2 ↔
      0x80 ≤ second.toNat ∧ second.toNat ≤ 0xBF ∧ (lead.toNat = 0xE0 → 0xA0 ≤ second.toNat) ∧
        (lead.toNat = 0xED → second.toNat ≤ 0x9F) ∧ (lead.toNat = 0xF0 → 0x90 ≤ second.toNat) ∧
        (lead.toNat = 0xF4 → second.toNat ≤ 0x8F) := by
  unfold secondRange
  simp only [← UInt8.toNat_inj, UInt8.reduceToNat]
  split_ifs <;> simp only [UInt8.le_iff_toNat_le, UInt8.reduceToNat] <;> omega

theorem isTail_iff {b : UInt8} : isTail b = true ↔ 0x80 ≤ b.toNat ∧ b.toNat ≤ 0xBF := by
  simp [isTail, UInt8.le_iff_toNat_le]

/-! ## One character -/

theorem utf8EncodeChar_ne_nil (c : Char) : String.utf8EncodeChar c ≠ [] := by
  unfold String.utf8EncodeChar
  dsimp only
  split_ifs <;> exact List.cons_ne_nil _ _

/-- The value of a character: no surrogate, and none beyond the last plane. -/
theorem toNat_valid (c : Char) : c.toNat < 0xD800 ∨ (0xDFFF < c.toNat ∧ c.toNat < 0x110000) :=
  c.valid

theorem toNat_ofNat {n : Nat} (h : n < 0xD800 ∨ (0xDFFF < n ∧ n < 0x110000)) : (Char.ofNat n).toNat = n := by
  have hchar : Char.ofNat n = Char.ofNatAux n h := dif_pos h
  rw [hchar]
  rfl

/-! What is read in front of bytes, by the length that the lead byte announces. -/

theorem next_one (h : lead.toNat < 0x80) : next lead rest = .char (Char.ofNat lead.toNat) 1 := by
  rcases announced?_cases lead with ⟨-, hone⟩ | hother
  · simp [next, hone]
  · omega

theorem next_two (hlow : 0xC2 ≤ lead.toNat) (hhigh : lead.toNat ≤ 0xDF) (hsecond : 0x80 ≤ second.toNat)
    (htail : second.toNat ≤ 0xBF) : next lead (second :: rest) =
      .char (Char.ofNat (lead.toNat % 32 * 64 + second.toNat % 64)) 2 := by
  have hlength : announced? lead = some 2 := by
    rcases announced?_cases lead with h | h | h | h | h <;> first | exact h.2.2 | omega
  have hrange := (@mem_secondRange_iff lead second).mpr (by omega)
  simp [next, hlength, hrange, continueTail, push]

theorem next_three {third : UInt8} (hlow : 0xE0 ≤ lead.toNat) (hhigh : lead.toNat ≤ 0xEF)
    (hrange : (secondRange lead).1 ≤ second ∧ second ≤ (secondRange lead).2) (hthird : isTail third = true) :
    next lead (second :: third :: rest) =
      .char (Char.ofNat ((lead.toNat % 16 * 64 + second.toNat % 64) * 64 + third.toNat % 64)) 3 := by
  have hlength : announced? lead = some 3 := by
    rcases announced?_cases lead with h | h | h | h | h <;> first | exact h.2.2 | omega
  simp [next, hlength, hrange, continueTail, push, hthird]

theorem next_four {third fourth : UInt8} (hlow : 0xF0 ≤ lead.toNat) (hhigh : lead.toNat ≤ 0xF4)
    (hrange : (secondRange lead).1 ≤ second ∧ second ≤ (secondRange lead).2) (hthird : isTail third = true)
    (hfourth : isTail fourth = true) : next lead (second :: third :: fourth :: rest) =
      .char (Char.ofNat (((lead.toNat % 8 * 64 + second.toNat % 64) * 64 + third.toNat % 64) * 64 +
        fourth.toNat % 64)) 4 := by
  have hlength : announced? lead = some 4 := by
    rcases announced?_cases lead with h | h | h | h | h <;> first | exact h.2.2 | omega
  simp [next, hlength, hrange, continueTail, push, hthird, hfourth]

/-- Bytes that begin with a character's own are read as the character. -/
theorem next_encoded (h : String.utf8EncodeChar c ++ rest = lead :: bytes) :
    next lead bytes = .char c (String.utf8EncodeChar c).length := by
  have hvalid := toNat_valid c
  have hback : Char.ofNat c.toNat = c := Char.ofNat_toNat c
  generalize hn : c.toNat = n at hvalid hback
  have hval : c.val.toNat = n := hn
  revert h
  unfold String.utf8EncodeChar
  dsimp only
  rw [hval]
  split_ifs with h1 h2 h3
  all_goals
    intro h
    simp only [List.cons_append, List.nil_append, List.cons.injEq] at h
    obtain ⟨rfl, rfl⟩ := h
  · have hlead := @toNat_byte n (by omega)
    rw [next_one (by omega), hlead, hback]
    rfl
  · have hlead := @toNat_byte (n / 64 % 32 + 192) (by omega)
    have hsecond := @toNat_byte (n % 64 + 128) (by omega)
    have hvalue : (n / 64 % 32 + 192) % 32 * 64 + (n % 64 + 128) % 64 = n := by omega
    rw [next_two (by omega) (by omega) (by omega) (by omega), hlead, hsecond, hvalue, hback]
    rfl
  · have hlead := @toNat_byte (n / 4096 % 16 + 224) (by omega)
    have hsecond := @toNat_byte (n / 64 % 64 + 128) (by omega)
    have hthird := @toNat_byte (n % 64 + 128) (by omega)
    have hvalue :
        ((n / 4096 % 16 + 224) % 16 * 64 + (n / 64 % 64 + 128) % 64) * 64 + (n % 64 + 128) % 64 = n := by
      omega
    rw [next_three (by omega) (by omega) (mem_secondRange_iff.mpr (by omega)) (isTail_iff.mpr (by omega)), hlead,
      hsecond, hthird, hvalue, hback]
    rfl
  · have hlead := @toNat_byte (n / 262144 % 8 + 240) (by omega)
    have hsecond := @toNat_byte (n / 4096 % 64 + 128) (by omega)
    have hthird := @toNat_byte (n / 64 % 64 + 128) (by omega)
    have hfourth := @toNat_byte (n % 64 + 128) (by omega)
    have hvalue : (((n / 262144 % 8 + 240) % 8 * 64 + (n / 4096 % 64 + 128) % 64) * 64 +
        (n / 64 % 64 + 128) % 64) * 64 + (n % 64 + 128) % 64 = n := by
      omega
    rw [next_four (by omega) (by omega) (mem_secondRange_iff.mpr (by omega)) (isTail_iff.mpr (by omega))
      (isTail_iff.mpr (by omega)), hlead, hsecond, hthird, hfourth, hvalue, hback]
    rfl

/-- Bytes that are the parts of a number are those of its character. -/
theorem utf8EncodeChar_ofNat {n : Nat} (h : n < 0xD800 ∨ (0xDFFF < n ∧ n < 0x110000)) :
    String.utf8EncodeChar (Char.ofNat n) =
      if n ≤ 0x7F then [UInt8.ofNat n]
      else if n ≤ 0x7FF then [UInt8.ofNat (n / 64 % 32 + 192), UInt8.ofNat (n % 64 + 128)]
      else if n ≤ 0xFFFF then
        [UInt8.ofNat (n / 4096 % 16 + 224), UInt8.ofNat (n / 64 % 64 + 128), UInt8.ofNat (n % 64 + 128)]
      else
        [UInt8.ofNat (n / 262144 % 8 + 240), UInt8.ofNat (n / 4096 % 64 + 128), UInt8.ofNat (n / 64 % 64 + 128),
          UInt8.ofNat (n % 64 + 128)] := by
  have hval : (Char.ofNat n).val.toNat = n := toNat_ofNat h
  unfold String.utf8EncodeChar
  dsimp only
  rw [hval]

theorem eq_byte {b : UInt8} {n : Nat} (h : b.toNat = n) : UInt8.ofNat n = b := by
  rw [← h, UInt8.ofNat_toNat]

/-- A character that is read stands in front of the bytes. -/
theorem encoded_of_next (h : next lead rest = .char c size) :
    String.utf8EncodeChar c = lead :: rest.take (size - 1) := by
  have hlt := lead.toNat_lt
  rcases announced?_cases lead with ⟨hlead, hannounced⟩ | ⟨hlow, hhigh, hannounced⟩ | ⟨hlow, hhigh, hannounced⟩ |
      ⟨hlow, hhigh, hannounced⟩ | ⟨hannounced, -⟩
  · rw [next_one hlead] at h
    cases h
    rw [utf8EncodeChar_ofNat (by omega), if_pos (by omega), UInt8.ofNat_toNat]
    rfl
  · unfold next at h
    rw [hannounced] at h
    cases rest with
    | nil => cases h
    | cons second rest =>
      dsimp only at h
      split_ifs at h with hrange
      rw [mem_secondRange_iff] at hrange
      obtain ⟨rfl, rfl⟩ : Char.ofNat (lead.toNat % 32 * 64 + second.toNat % 64) = c ∧ 2 = size := by
        simpa [continueTail, push] using h
      rw [utf8EncodeChar_ofNat (by omega), if_neg (by omega), if_pos (by omega), eq_byte (b := lead) (by omega),
        eq_byte (b := second) (by omega)]
      rfl
  · unfold next at h
    rw [hannounced] at h
    cases rest with
    | nil => cases h
    | cons second rest =>
      dsimp only at h
      split_ifs at h with hrange
      rw [mem_secondRange_iff] at hrange
      cases rest with
      | nil => cases h
      | cons third rest =>
        by_cases hthird : isTail third = true
        · obtain ⟨rfl, rfl⟩ :
              Char.ofNat ((lead.toNat % 16 * 64 + second.toNat % 64) * 64 + third.toNat % 64) = c ∧ 3 = size := by
            simpa [continueTail, push, hthird] using h
          rw [isTail_iff] at hthird
          rw [utf8EncodeChar_ofNat (by omega), if_neg (by omega), if_neg (by omega), if_pos (by omega),
            eq_byte (b := lead) (by omega), eq_byte (b := second) (by omega), eq_byte (b := third) (by omega)]
          rfl
        · simp [continueTail, hthird] at h
  · unfold next at h
    rw [hannounced] at h
    cases rest with
    | nil => cases h
    | cons second rest =>
      dsimp only at h
      split_ifs at h with hrange
      rw [mem_secondRange_iff] at hrange
      cases rest with
      | nil => cases h
      | cons third rest =>
        by_cases hthird : isTail third = true
        · cases rest with
          | nil => simp [continueTail, hthird] at h
          | cons fourth rest =>
            by_cases hfourth : isTail fourth = true
            · obtain ⟨rfl, rfl⟩ : Char.ofNat (((lead.toNat % 8 * 64 + second.toNat % 64) * 64 +
                  third.toNat % 64) * 64 + fourth.toNat % 64) = c ∧ 4 = size := by
                simpa [continueTail, push, hthird, hfourth] using h
              rw [isTail_iff] at hthird hfourth
              rw [utf8EncodeChar_ofNat (by omega), if_neg (by omega), if_neg (by omega), if_neg (by omega),
                eq_byte (b := lead) (by omega), eq_byte (b := second) (by omega), eq_byte (b := third) (by omega),
                eq_byte (b := fourth) (by omega)]
              rfl
            · simp [continueTail, hthird, hfourth] at h
        · simp [continueTail, hthird] at h
  · simp [next, hannounced] at h

/-! ## Whole texts -/

/-- Bytes that belong to a character already read are passed over. -/
theorem decodeFrom_skip (index skip : Nat) (bytes : List UInt8) :
    decodeFrom index skip bytes = decodeFrom (index + skip) 0 (bytes.drop skip) := by
  induction skip generalizing index bytes with
  | zero => rfl
  | succ skip ih =>
    cases bytes with
    | nil => rfl
    | cons b rest =>
      have hindex : index + 1 + skip = index + (skip + 1) := by omega
      rw [decodeFrom, ih, hindex, List.drop_succ_cons]

/-- A character that is read is followed by the characters behind its bytes. -/
theorem decodeFrom_of_next {index : Nat} (h : next lead rest = .char c size) :
    decodeFrom index 0 (lead :: rest) =
      (c :: ·) <$> decodeFrom (index + 1 + (size - 1)) 0 (rest.drop (size - 1)) := by
  rw [decodeFrom, h]
  dsimp only
  rw [decodeFrom_skip]

theorem encode_cons (c : Char) (text : List Char) : encode (c :: text) = String.utf8EncodeChar c ++ encode text :=
  rfl

theorem decodeFrom_eq_ok_iff {index : Nat} : decodeFrom index 0 bytes = .ok text ↔ encode text = bytes := by
  -- A character is one byte or more: the induction is on how many bytes are left.
  induction hlength : bytes.length using Nat.strongRecOn generalizing index bytes text with
  | ind length ih =>
    cases bytes with
    | nil =>
      cases text with
      | nil => simp [decodeFrom, encode]
      | cons c text => simp [decodeFrom, encode_cons]
    | cons lead rest =>
      have hshort : ∀ size, (rest.drop size).length < length := by
        intro size
        rw [← hlength, List.length_drop, List.length_cons]
        omega
      constructor
      · intro h
        cases hnext : next lead rest with
        | invalid | incomplete =>
          rw [decodeFrom, hnext] at h
          cases h
        | char c size =>
          rw [decodeFrom_of_next hnext] at h
          cases hrest : decodeFrom (index + 1 + (size - 1)) 0 (rest.drop (size - 1)) with
          | error fault =>
            rw [hrest] at h
            cases h
          | ok text =>
            rw [hrest] at h
            cases h
            rw [encode_cons, encoded_of_next hnext, (ih _ (hshort _) rfl).mp hrest, List.cons_append,
              List.take_append_drop]
      · intro h
        cases text with
        | nil => cases h
        | cons c text =>
          rw [encode_cons] at h
          have hrest : encode text = rest.drop ((String.utf8EncodeChar c).length - 1) := by
            obtain ⟨first, tail, hchar⟩ := List.exists_cons_of_ne_nil (utf8EncodeChar_ne_nil c)
            rw [hchar] at h ⊢
            rw [← (List.cons.inj h).2]
            exact List.drop_left.symm
          rw [decodeFrom_of_next (next_encoded h), (ih _ (hshort _) rfl).mpr hrest]
          rfl

/-- The bytes that are decoded are those of a text. -/
theorem decode?_eq_ok_iff : decode? bytes = .ok text ↔ encode text = bytes :=
  decodeFrom_eq_ok_iff

theorem decode?_encode (text : List Char) : decode? (encode text) = .ok text :=
  decode?_eq_ok_iff.mpr rfl

/-- Bytes are decoded unless they are no text's. -/
theorem exists_decode?_eq_error_iff : (∃ fault, decode? bytes = .error fault) ↔ ∀ text, encode text ≠ bytes := by
  cases hdecode : decode? bytes with
  | ok text =>
    refine iff_of_false (fun ⟨_, h⟩ => nomatch h) fun h => ?_
    exact h text (decode?_eq_ok_iff.mp hdecode)
  | error fault =>
    refine iff_of_true ⟨fault, rfl⟩ fun text htext => ?_
    rw [decode?_eq_ok_iff.mpr htext] at hdecode
    cases hdecode

end Utf8

/-! ## Files that are text -/

/-- Why a file that was read, or not, gives no text. -/
inductive NoText : Except FileError (List UInt8) → FileError → Prop
  | unread (cause : FileError) : NoText (.error cause) cause
  | undecodable {bytes : List UInt8} (h : ∀ text, Utf8.encode text ≠ bytes) : NoText (.ok bytes) .notText

variable {found : Except FileError (List UInt8)} {text : List Char} {cause : FileError}

/-- A file gives the text that its bytes are. -/
theorem bind_textOfBytes_eq_ok_iff : (found >>= textOfBytes) = .ok text ↔ found = .ok (Utf8.encode text) := by
  constructor
  · intro h
    cases found with
    | error cause => cases h
    | ok bytes =>
      have hmap : (Utf8.decode? bytes).mapError (fun _ => FileError.notText) = .ok text := h
      cases hdecode : Utf8.decode? bytes with
      | error fault =>
        rw [hdecode] at hmap
        cases hmap
      | ok other =>
        rw [hdecode] at hmap
        cases hmap
        rw [Utf8.decode?_eq_ok_iff.mp hdecode]
  · rintro rfl
    show (Utf8.decode? (Utf8.encode text)).mapError _ = _
    rw [Utf8.decode?_encode]
    rfl

theorem bind_textOfBytes_eq_error_iff : (found >>= textOfBytes) = .error cause ↔ NoText found cause := by
  constructor
  · intro h
    cases found with
    | error other =>
      cases h
      exact .unread cause
    | ok bytes =>
      have hmap : (Utf8.decode? bytes).mapError (fun _ => FileError.notText) = .error cause := h
      cases hdecode : Utf8.decode? bytes with
      | error fault =>
        rw [hdecode] at hmap
        cases hmap
        exact .undecodable (Utf8.exists_decode?_eq_error_iff.mp ⟨fault, hdecode⟩)
      | ok text =>
        rw [hdecode] at hmap
        cases hmap
  · intro h
    cases h with
    | unread => rfl
    | undecodable h =>
      obtain ⟨fault, hdecode⟩ := Utf8.exists_decode?_eq_error_iff.mpr h
      show (Utf8.decode? _).mapError _ = _
      rw [hdecode]
      rfl

end FrameTransition
