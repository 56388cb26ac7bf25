import WorkspaceIndex.Proofs.OsText
import WorkspaceIndex.Text.Utf8
/-!
# UTF-8 and back

Reading bytes as UTF-8 is compared with writing characters as bytes. A row of bytes *spells* a
character if the reading takes it off the front as this character (`Spells`). The bytes as which a
character is written spell it (`spells_encoded`), and no others do (`Spells.encoded_eq`): that is
where it matters which bytes may follow which, since a number could otherwise be written in more
bytes than it needs.

So bytes are valid throughout if and only if they are the bytes of a text, and then they are read as
that text (`decode?_eq_some_iff`). No bytes are lost even if they are not (`bytes_decode`): the
letters that are no characters keep theirs.
-/

namespace WorkspaceIndex.Text.Utf8

variable {bytes : List UInt8} {b c : UInt8} {char : Char} {n : Nat}

/-! ### Ranges of bytes -/

theorem isContinuation_iff : isContinuation b = true ↔ 0x80 ≤ b.toNat ∧ b.toNat ≤ 0xbf := by
  rw [isContinuation, Bool.and_eq_true, decide_eq_true_iff, decide_eq_true_iff]
  rfl

/-- What may follow the first of three bytes: a continuation, but none with which two bytes would
have been enough, or with which the number is no character. -/
theorem startsThree_iff :
    startsThree b c = true ↔ 0x80 ≤ c.toNat ∧ c.toNat ≤ 0xbf ∧
      (b.toNat = 0xe0 → 0xa0 ≤ c.toNat) ∧ (b.toNat = 0xed → c.toNat ≤ 0x9f) := by
  have hlow : b = 0xe0 ↔ b.toNat = 0xe0 := UInt8.toNat_inj.symm
  have hhigh : b = 0xed ↔ b.toNat = 0xed := UInt8.toNat_inj.symm
  simp only [startsThree, hlow, hhigh, isContinuation, UInt8.le_iff_toNat_le, UInt8.reduceToNat]
  split
  · simp only [Bool.and_eq_true, decide_eq_true_iff]
    omega
  · split <;> simp only [Bool.and_eq_true, decide_eq_true_iff] <;> omega

/-- What may follow the first of four bytes: a continuation, but none with which three bytes would
have been enough, or with which the number is too large for a character. -/
theorem startsFour_iff :
    startsFour b c = true ↔ 0x80 ≤ c.toNat ∧ c.toNat ≤ 0xbf ∧
      (b.toNat = 0xf0 → 0x90 ≤ c.toNat) ∧ (b.toNat = 0xf4 → c.toNat ≤ 0x8f) := by
  have hlow : b = 0xf0 ↔ b.toNat = 0xf0 := UInt8.toNat_inj.symm
  have hhigh : b = 0xf4 ↔ b.toNat = 0xf4 := UInt8.toNat_inj.symm
  simp only [startsFour, hlow, hhigh, isContinuation, UInt8.le_iff_toNat_le, UInt8.reduceToNat]
  split
  · simp only [Bool.and_eq_true, decide_eq_true_iff]
    omega
  · split <;> simp only [Bool.and_eq_true, decide_eq_true_iff] <;> omega

/-! ### The bytes of one character -/

/-- The bytes of a character: a first byte by which it is settled how many there are, and
continuations. -/
inductive Spells : List UInt8 → Char → Prop where
  | one {b : UInt8} (b_lt : b < 0x80) : Spells [b] (Char.ofNat b.toNat)
  | two {b c : UInt8} (first : 0xc2 ≤ b ∧ b ≤ 0xdf) (c_continues : isContinuation c = true) :
      Spells [b, c] (assemble (b.toNat - 0xc0) [c])
  | three {b c d : UInt8} (first : 0xe0 ≤ b ∧ b ≤ 0xef) (c_follows : startsThree b c = true)
      (d_continues : isContinuation d = true) :
      Spells [b, c, d] (assemble (b.toNat - 0xe0) [c, d])
  | four {b c d e : UInt8} (first : 0xf0 ≤ b ∧ b ≤ 0xf4) (c_follows : startsFour b c = true)
      (d_continues : isContinuation d = true) (e_continues : isContinuation e = true) :
      Spells [b, c, d, e] (assemble (b.toNat - 0xf0) [c, d, e])

theorem Spells.ne_nil (h : Spells bytes char) : bytes ≠ [] := by
  cases h <;> exact List.cons_ne_nil _ _

theorem toNat_ofNat (h : n.isValidChar) : (Char.ofNat n).toNat = n := by
  rw [Char.ofNat, dif_pos h]
  rfl

/-- The bytes as which a character is written, by its number. -/
theorem encoded_ofNat (h : n.isValidChar) :
    String.utf8EncodeChar (Char.ofNat n) =
      if n ≤ 0x7f then [UInt8.ofNat n]
      else if n ≤ 0x7ff then [UInt8.ofNat (n / 64 % 0x20 + 0xc0), UInt8.ofNat (n % 0x40 + 0x80)]
      else if n ≤ 0xffff then
        [UInt8.ofNat (n / 4096 % 0x10 + 0xe0), UInt8.ofNat (n / 64 % 0x40 + 0x80),
          UInt8.ofNat (n % 0x40 + 0x80)]
      else
        [UInt8.ofNat (n / 262144 % 0x08 + 0xf0), UInt8.ofNat (n / 4096 % 0x40 + 0x80),
          UInt8.ofNat (n / 64 % 0x40 + 0x80), UInt8.ofNat (n % 0x40 + 0x80)] := by
  have hn : (Char.ofNat n).val.toNat = n := toNat_ofNat h
  rw [String.utf8EncodeChar, hn]

/-- Numbers of characters: all below the last one, but for a gap. -/
theorem isValidChar_iff : n.isValidChar ↔ n ≤ 0xd7ff ∨ 0xe000 ≤ n ∧ n ≤ 0x10ffff := by
  rw [Nat.isValidChar]
  omega

theorem ofNat_eq (h : n = b.toNat) : UInt8.ofNat n = b := by rw [h, UInt8.ofNat_toNat]

/-- **A character is spelled by no other bytes than it is written as.** -/
theorem Spells.encoded_eq (h : Spells bytes char) : String.utf8EncodeChar char = bytes := by
  cases h with
  | one b_lt =>
    rename_i b
    have hb : b.toNat < 0x80 := b_lt
    rw [encoded_ofNat (isValidChar_iff.2 (by omega)), if_pos (by omega), UInt8.ofNat_toNat]
  | two first c_continues =>
    rename_i b c
    have hb : 0xc2 ≤ b.toNat ∧ b.toNat ≤ 0xdf := first
    have hc := isContinuation_iff.1 c_continues
    obtain ⟨n, hn⟩ : ∃ n, n = 64 * (b.toNat - 0xc0) + (c.toNat - 0x80) := ⟨_, rfl⟩
    have hchar : assemble (b.toNat - 0xc0) [c] = Char.ofNat n := hn ▸ rfl
    rw [hchar, encoded_ofNat (isValidChar_iff.2 (by omega)), if_neg (by omega), if_pos (by omega),
      List.cons.injEq, List.cons.injEq]
    exact ⟨ofNat_eq (by omega), ofNat_eq (by omega), rfl⟩
  | three first c_follows d_continues =>
    rename_i b c d
    have hb : 0xe0 ≤ b.toNat ∧ b.toNat ≤ 0xef := first
    have hc := startsThree_iff.1 c_follows
    have hd := isContinuation_iff.1 d_continues
    obtain ⟨n, hn⟩ : ∃ n, n = 64 * (64 * (b.toNat - 0xe0) + (c.toNat - 0x80)) + (d.toNat - 0x80) :=
      ⟨_, rfl⟩
    have hchar : assemble (b.toNat - 0xe0) [c, d] = Char.ofNat n := hn ▸ rfl
    rw [hchar, encoded_ofNat (isValidChar_iff.2 (by omega)), if_neg (by omega), if_neg (by omega),
      if_pos (by omega), List.cons.injEq, List.cons.injEq, List.cons.injEq]
    exact ⟨ofNat_eq (by omega), ofNat_eq (by omega), ofNat_eq (by omega), rfl⟩
  | four first c_follows d_continues e_continues =>
    rename_i b c d e
    have hb : 0xf0 ≤ b.toNat ∧ b.toNat ≤ 0xf4 := first
    have hc := startsFour_iff.1 c_follows
    have hd := isContinuation_iff.1 d_continues
    have he := isContinuation_iff.1 e_continues
    obtain ⟨n, hn⟩ : ∃ n, n = 64 * (64 * (64 * (b.toNat - 0xf0) + (c.toNat - 0x80)) +
        (d.toNat - 0x80)) + (e.toNat - 0x80) := ⟨_, rfl⟩
    have hchar : assemble (b.toNat - 0xf0) [c, d, e] = Char.ofNat n := hn ▸ rfl
    rw [hchar, encoded_ofNat (isValidChar_iff.2 (by omega)), if_neg (by omega), if_neg (by omega),
      if_neg (by omega), List.cons.injEq, List.cons.injEq, List.cons.injEq, List.cons.injEq]
    exact ⟨ofNat_eq (by omega), ofNat_eq (by omega), ofNat_eq (by omega), ofNat_eq (by omega), rfl⟩

/-- A byte with its number. -/
theorem exists_byte (h : n < 0x100) : ∃ b : UInt8, UInt8.ofNat n = b ∧ b.toNat = n :=
  ⟨UInt8.ofNat n, rfl, UInt8.toNat_ofNat_of_lt' h⟩

/-- **The bytes as which a character is written spell it.** -/
theorem spells_encoded (char : Char) : Spells (String.utf8EncodeChar char) char := by
  obtain ⟨n, hn⟩ : ∃ n, n = char.toNat := ⟨_, rfl⟩
  have hchar : char = Char.ofNat n := by rw [hn, Char.ofNat_toNat]
  have hvalid : n.isValidChar := hn ▸ char.valid
  have hrange := isValidChar_iff.1 hvalid
  rw [hchar, encoded_ofNat hvalid]
  split
  · rename_i hone
    obtain ⟨b, hb, hbn⟩ := exists_byte (n := n) (by omega)
    have hlt : b.toNat < 0x80 := by omega
    rw [hb, ← hbn]
    exact .one hlt
  split
  · rename_i hone htwo
    obtain ⟨b, hb, hbn⟩ := exists_byte (n := n / 64 % 0x20 + 0xc0) (by omega)
    obtain ⟨c, hc, hcn⟩ := exists_byte (n := n % 0x40 + 0x80) (by omega)
    have hnumber : 64 * (b.toNat - 0xc0) + (c.toNat - 0x80) = n := by omega
    have hfirst : 0xc2 ≤ b.toNat ∧ b.toNat ≤ 0xdf := by omega
    rw [hb, hc, ← hnumber]
    exact .two hfirst (isContinuation_iff.2 (by omega))
  split
  · rename_i hone htwo hthree
    obtain ⟨b, hb, hbn⟩ := exists_byte (n := n / 4096 % 0x10 + 0xe0) (by omega)
    obtain ⟨c, hc, hcn⟩ := exists_byte (n := n / 64 % 0x40 + 0x80) (by omega)
    obtain ⟨d, hd, hdn⟩ := exists_byte (n := n % 0x40 + 0x80) (by omega)
    have hnumber : 64 * (64 * (b.toNat - 0xe0) + (c.toNat - 0x80)) + (d.toNat - 0x80) = n := by
      omega
    have hfirst : 0xe0 ≤ b.toNat ∧ b.toNat ≤ 0xef := by omega
    rw [hb, hc, hd, ← hnumber]
    exact .three hfirst (startsThree_iff.2 (by omega)) (isContinuation_iff.2 (by omega))
  · rename_i hone htwo hthree
    obtain ⟨b, hb, hbn⟩ := exists_byte (n := n / 262144 % 0x08 + 0xf0) (by omega)
    obtain ⟨c, hc, hcn⟩ := exists_byte (n := n / 4096 % 0x40 + 0x80) (by omega)
    obtain ⟨d, hd, hdn⟩ := exists_byte (n := n / 64 % 0x40 + 0x80) (by omega)
    obtain ⟨e, he, hen⟩ := exists_byte (n := n % 0x40 + 0x80) (by omega)
    have hnumber : 64 * (64 * (64 * (b.toNat - 0xf0) + (c.toNat - 0x80)) + (d.toNat - 0x80)) +
        (e.toNat - 0x80) = n := by omega
    have hfirst : 0xf0 ≤ b.toNat ∧ b.toNat ≤ 0xf4 := by omega
    rw [hb, hc, hd, he, ← hnumber]
    exact .four hfirst (startsFour_iff.2 (by omega)) (isContinuation_iff.2 (by omega))
      (isContinuation_iff.2 (by omega))

/-! ### Reading a text off -/

/-- The reading takes what spells a character off the front. -/
theorem decode_of_spells (h : Spells bytes char) (rest : List UInt8) :
    decode (bytes ++ rest) = .char char :: decode rest := by
  cases h with
  | one b_lt =>
    rw [List.singleton_append, decode.eq_def]
    exact if_pos b_lt
  | two first c_continues =>
    rename_i b c
    have hb : 0xc2 ≤ b.toNat ∧ b.toNat ≤ 0xdf := first
    rw [List.cons_append, List.singleton_append, decode.eq_def]
    simp only [UInt8.lt_iff_toNat_lt, UInt8.le_iff_toNat_le, UInt8.reduceToNat, Bool.and_eq_true,
      decide_eq_true_iff, c_continues, if_true]
    rw [if_neg (by omega), if_pos hb]
  | three first c_follows d_continues =>
    rename_i b c d
    have hb : 0xe0 ≤ b.toNat ∧ b.toNat ≤ 0xef := first
    rw [List.cons_append, List.cons_append, List.singleton_append, decode.eq_def]
    simp only [UInt8.lt_iff_toNat_lt, UInt8.le_iff_toNat_le, UInt8.reduceToNat, Bool.and_eq_true,
      decide_eq_true_iff, c_follows, d_continues, if_true]
    rw [if_neg (by omega), if_neg (by omega), if_pos hb]
  | four first c_follows d_continues e_continues =>
    rename_i b c d e
    have hb : 0xf0 ≤ b.toNat ∧ b.toNat ≤ 0xf4 := first
    rw [List.cons_append, List.cons_append, List.cons_append, List.singleton_append, decode.eq_def]
    simp only [UInt8.lt_iff_toNat_lt, UInt8.le_iff_toNat_le, UInt8.reduceToNat, Bool.and_eq_true,
      decide_eq_true_iff, c_follows, d_continues, e_continues, if_true]
    rw [if_neg (by omega), if_neg (by omega), if_neg (by omega), if_pos hb]

/-- What the reading finds first: a character that the bytes at the front spell, or bytes that
belong to none. -/
theorem decode_cases (hne : bytes ≠ []) :
    (∃ front back char, bytes = front ++ back ∧ Spells front char ∧
        decode bytes = .char char :: decode back) ∨
      ∃ front back, front ≠ [] ∧ bytes = front ++ back ∧
        decode bytes = .stray front :: decode back := by
  fun_cases decode bytes
  case case1 => exact absurd rfl hne
  case case2 b rest b_lt => exact .inl ⟨[b], rest, _, rfl, .one b_lt, rfl⟩
  case case3 b _ first c rest c_continues =>
    rw [Bool.and_eq_true, decide_eq_true_iff, decide_eq_true_iff] at first
    exact .inl ⟨[b, c], rest, _, rfl, .two first c_continues, rfl⟩
  case case6 b _ _ first c c_follows d rest d_continues =>
    rw [Bool.and_eq_true, decide_eq_true_iff, decide_eq_true_iff] at first
    exact .inl ⟨[b, c, d], rest, _, rfl, .three first c_follows d_continues, rfl⟩
  case case11 b _ _ _ first c c_follows d d_continues e rest e_continues =>
    rw [Bool.and_eq_true, decide_eq_true_iff, decide_eq_true_iff] at first
    exact .inl ⟨[b, c, d, e], rest, _, rfl, .four first c_follows d_continues e_continues, rfl⟩
  -- in every other branch no character was found, and then bytes may be left or not
  all_goals
    first
    | exact .inr ⟨_, _, List.cons_ne_nil _ _, rfl, rfl⟩
    | exact .inr ⟨_, [], List.cons_ne_nil _ _, (List.append_nil _).symm, by rw [decode]⟩

/-- Nothing but characters is found if and only if the bytes are those as which they are written. -/
theorem decode_eq_map_char_iff {chars : List Char} :
    decode bytes = chars.map .char ↔ bytes = chars.flatMap String.utf8EncodeChar := by
  induction chars generalizing bytes with
  | nil =>
    refine ⟨fun h ↦ ?_, fun h ↦ h ▸ rfl⟩
    by_contra hne
    rcases decode_cases hne with
      ⟨front, back, char, -, -, hdecode⟩ | ⟨front, back, -, -, hdecode⟩ <;>
      rw [hdecode] at h <;> cases h
  | cons char chars ih =>
    rw [List.map_cons, List.flatMap_cons]
    constructor
    · intro h
      have hne : bytes ≠ [] := by
        rintro rfl
        cases h
      rcases decode_cases hne with ⟨front, back, found, rfl, hspells, hdecode⟩ |
        ⟨front, back, -, -, hdecode⟩
      · rw [hdecode, List.cons.injEq, Letter.char.injEq] at h
        obtain ⟨rfl, hback⟩ := h
        rw [hspells.encoded_eq, ih.1 hback]
      · rw [hdecode] at h
        cases h
    · rintro rfl
      rw [decode_of_spells (spells_encoded char), ih.2 rfl]

/-- **The letters of bytes have these bytes.** -/
theorem bytes_decode (bytes : List UInt8) : (decode bytes).flatMap Letter.bytes = bytes := by
  induction hlength : bytes.length using Nat.strongRecOn generalizing bytes with
  | ind length ih =>
    obtain rfl | hne := eq_or_ne bytes []
    · rfl
    · rcases decode_cases hne with ⟨front, back, char, rfl, hspells, hdecode⟩ |
        ⟨front, back, hfront, rfl, hdecode⟩
      · have hshorter : back.length < length := by
          have hpositive := List.length_pos_iff.2 hspells.ne_nil
          rw [List.length_append] at hlength
          omega
        rw [hdecode, List.flatMap_cons, ih _ hshorter back rfl, Letter.bytes, hspells.encoded_eq]
      · have hshorter : back.length < length := by
          have hpositive := List.length_pos_iff.2 hfront
          rw [List.length_append] at hlength
          omega
        rw [hdecode, List.flatMap_cons, ih _ hshorter back rfl, Letter.bytes]

/-- **Bytes are read as a text if and only if they are the bytes of this text.** -/
theorem decode?_eq_some_iff {text : String} :
    decode? bytes = some text ↔ bytes.toByteArray = text.toByteArray := by
  rw [decode?, OsText.text?_eq_some_iff, ← String.utf8Encode_toList, List.utf8Encode,
    List.toByteArray_inj, ← decode_eq_map_char_iff]
  rfl

/-- Bytes are read as no text if and only if they are not valid. -/
theorem decode?_eq_none_iff : decode? bytes = none ↔ ¬ bytes.toByteArray.IsValidUTF8 := by
  rw [Option.eq_none_iff_forall_ne_some]
  simp only [ne_eq, decode?_eq_some_iff]
  refine ⟨fun h hvalid ↦ h (String.ofByteArray _ hvalid) rfl, fun h text htext ↦ h ?_⟩
  rw [htext]
  exact text.isValidUTF8

end WorkspaceIndex.Text.Utf8
