import Mathlib.Data.List.Basic
import Backfill.Text.Utf8

/-!
# Bytes that are UTF-8

Bytes decode if and only if they are the encoding of a text, and then they decode to that text.
-/

namespace Backfill.Text

/-- The bytes of a text. -/
def encodeUtf8 (s : String) : List UInt8 :=
  s.toList.flatMap String.utf8EncodeChar

namespace Utf8

/-! ### Bytes of one character -/

/-- What a first byte leaves to be read, by the number of bytes that are to follow it. -/
inductive Begins (index : Nat) (b : UInt8) : Pending → Prop
  | two (hb : 0xc2 ≤ b.toNat ∧ b.toNat ≤ 0xdf) :
      Begins index b ⟨index, b.toNat % 32, 1, 0, 0x80, 0xbf⟩
  | three (hb : 0xe0 ≤ b.toNat ∧ b.toNat ≤ 0xef) :
      Begins index b ⟨index, b.toNat % 16, 1, 1, if b = 0xe0 then 0xa0 else 0x80,
        if b = 0xed then 0x9f else 0xbf⟩
  | four (hb : 0xf0 ≤ b.toNat ∧ b.toNat ≤ 0xf4) :
      Begins index b ⟨index, b.toNat % 8, 1, 2, if b = 0xf0 then 0x90 else 0x80,
        if b = 0xf4 then 0x8f else 0xbf⟩

lemma first_eq_some_iff {index : Nat} {b : UInt8} {p : Pending} :
    first index b = some p ↔ Begins index b p := by
  simp only [first, UInt8.lt_iff_toNat_lt, UInt8.le_iff_toNat_le, UInt8.reduceToNat]
  constructor
  · intro h
    split at h
    · cases h
    split at h
    · cases h
      exact .two (by omega)
    split at h
    · cases h
      exact .three (by omega)
    split at h
    · cases h
      exact .four (by omega)
    · cases h
  · intro h
    cases h with
    | two hb => rw [if_neg (by omega), if_pos (by omega)]
    | three hb => rw [if_neg (by omega), if_neg (by omega), if_pos (by omega)]
    | four hb => rw [if_neg (by omega), if_neg (by omega), if_neg (by omega), if_pos (by omega)]

lemma Begins.not_ascii {index : Nat} {b : UInt8} {p : Pending} (h : Begins index b p) :
    ¬ b < 0x80 := by
  simp only [UInt8.lt_iff_toNat_lt, UInt8.reduceToNat]
  cases h <;> omega

/-- The character being read after one more of its bytes, if others are to follow that one. -/
def Pending.next (p : Pending) (b : UInt8) (more : Nat) : Pending :=
  ⟨p.start, 64 * p.code + b.toNat % 64, p.seen + 1, more, 0x80, 0xbf⟩

/-- The bytes that complete a character being read, and its code point. -/
inductive Completes : Pending → List UInt8 → Nat → Prop
  | last {p : Pending} {b : UInt8} (hmore : p.more = 0) (hb : p.low ≤ b ∧ b ≤ p.high) :
      Completes p [b] (64 * p.code + b.toNat % 64)
  | next {p : Pending} {b : UInt8} {more : Nat} {bytes : List UInt8} {code : Nat}
      (hmore : p.more = more + 1) (hb : p.low ≤ b ∧ b ≤ p.high)
      (h : Completes (p.next b more) bytes code) : Completes p (b :: bytes) code

lemma decodeFrom_completes {p : Pending} {bytes : List UInt8} {code : Nat}
    (h : Completes p bytes code) (index : Nat) (rest : List UInt8) :
    decodeFrom index (some p) (bytes ++ rest) =
      (Char.ofNat code :: ·) <$> decodeFrom (index + bytes.length) none rest := by
  induction h generalizing index with
  | @last p b hmore hb =>
    rw [List.singleton_append, decodeFrom, if_pos hb]
    simp only [hmore]
    rfl
  | @next p b more bytes code hmore hb h ih =>
    rw [List.cons_append, decodeFrom, if_pos hb]
    simp only [hmore]
    refine (ih (index + 1)).trans ?_
    rw [List.length_cons, Nat.add_right_comm, Nat.add_assoc]

/-- Bytes that decode complete the character being read. -/
lemma exists_completes {index : Nat} {p : Pending} {bytes : List UInt8} {chars : List Char}
    (h : decodeFrom index (some p) bytes = .ok chars) :
    ∃ first code rest, Completes p first code ∧ bytes = first ++ rest := by
  induction bytes generalizing index p with
  | nil => cases h
  | cons b bytes ih =>
    rw [decodeFrom] at h
    split at h
    · next hb =>
      cases hmore : p.more with
      | zero => exact ⟨[b], _, bytes, .last hmore hb, rfl⟩
      | succ more =>
        simp only [hmore] at h
        obtain ⟨first, code, rest, hfirst, rfl⟩ := ih h
        exact ⟨b :: first, code, rest, .next hmore hb hfirst, rfl⟩
    · cases h

/-! ### Encoded characters -/

lemma toNat_val_ofNat {n : Nat} (h : n < 0xd800 ∨ 0xdfff < n ∧ n < 0x110000) :
    (Char.ofNat n).val.toNat = n := by
  have hvalid : n.isValidChar := h
  rw [Char.ofNat, dif_pos hvalid]
  rfl

/-- A byte that is not the first one of its character. -/
def IsContinuation (b : UInt8) : Prop :=
  0x80 ≤ b.toNat ∧ b.toNat ≤ 0xbf

/-- The bytes of one character that has more than one, by their ranges, and its code point. The
range of the second byte is narrower where the sequence would be an overlong form, a surrogate or a
code point beyond the last one. -/
inductive Spells : List UInt8 → Nat → Prop
  | two {b c : UInt8} {code : Nat} (hb : 0xc2 ≤ b.toNat ∧ b.toNat ≤ 0xdf) (hc : IsContinuation c)
      (hcode : code = 64 * (b.toNat % 32) + c.toNat % 64) : Spells [b, c] code
  | three {b c d : UInt8} {code : Nat} (hb : 0xe0 ≤ b.toNat ∧ b.toNat ≤ 0xef)
      (hc : IsContinuation c ∧ (b.toNat = 0xe0 → 0xa0 ≤ c.toNat) ∧
        (b.toNat = 0xed → c.toNat ≤ 0x9f))
      (hd : IsContinuation d)
      (hcode : code = 64 * (64 * (b.toNat % 16) + c.toNat % 64) + d.toNat % 64) :
      Spells [b, c, d] code
  | four {b c d e : UInt8} {code : Nat} (hb : 0xf0 ≤ b.toNat ∧ b.toNat ≤ 0xf4)
      (hc : IsContinuation c ∧ (b.toNat = 0xf0 → 0x90 ≤ c.toNat) ∧
        (b.toNat = 0xf4 → c.toNat ≤ 0x8f))
      (hd : IsContinuation d) (he : IsContinuation e)
      (hcode : code =
        64 * (64 * (64 * (b.toNat % 8) + c.toNat % 64) + d.toNat % 64) + e.toNat % 64) :
      Spells [b, c, d, e] code

lemma Spells.encoded {bytes : List UInt8} {code : Nat} (h : Spells bytes code) :
    String.utf8EncodeChar (Char.ofNat code) = bytes := by
  cases h with
  | two hb hc hcode =>
    unfold IsContinuation at hc
    simp only [String.utf8EncodeChar]
    rw [toNat_val_ofNat (by omega), if_neg (by omega), if_pos (by omega)]
    simp only [List.cons.injEq, ← UInt8.toNat_inj, UInt8.toNat_ofNat', and_true]
    omega
  | three hb hc hd hcode =>
    unfold IsContinuation at hc hd
    simp only [String.utf8EncodeChar]
    rw [toNat_val_ofNat (by omega), if_neg (by omega), if_neg (by omega), if_pos (by omega)]
    simp only [List.cons.injEq, ← UInt8.toNat_inj, UInt8.toNat_ofNat', and_true]
    omega
  | four hb hc hd he hcode =>
    unfold IsContinuation at hc hd he
    simp only [String.utf8EncodeChar]
    rw [toNat_val_ofNat (by omega), if_neg (by omega), if_neg (by omega), if_neg (by omega)]
    simp only [List.cons.injEq, ← UInt8.toNat_inj, UInt8.toNat_ofNat', and_true]
    omega

/-- The ranges leave out no character. -/
lemma spells_utf8EncodeChar {c : Char} (h : 0x80 ≤ c.toNat) :
    Spells (String.utf8EncodeChar c) c.toNat := by
  have hvalid : c.toNat < 0xd800 ∨ 0xdfff < c.toNat ∧ c.toNat < 0x110000 := c.valid
  have hval : c.val.toNat = c.toNat := rfl
  simp only [String.utf8EncodeChar, hval]
  rw [if_neg (by omega)]
  split_ifs with htwo hthree
  · constructor <;> simp only [IsContinuation, UInt8.toNat_ofNat'] <;> omega
  · constructor <;> simp only [IsContinuation, UInt8.toNat_ofNat'] <;> omega
  · constructor <;> simp only [IsContinuation, UInt8.toNat_ofNat'] <;> omega

lemma isContinuation_iff {c : UInt8} : IsContinuation c ↔ 0x80 ≤ c ∧ c ≤ 0xbf := by
  simp only [IsContinuation, UInt8.le_iff_toNat_le, UInt8.reduceToNat]

/-- The range of a second byte, where two first bytes make it narrower. -/
lemma second_iff {b c x y low high : UInt8} (hlow : 0x80 ≤ low.toNat) (hhigh : high.toNat ≤ 0xbf) :
    ((if b = x then low else 0x80) ≤ c ∧ c ≤ if b = y then high else 0xbf) ↔
      IsContinuation c ∧ (b.toNat = x.toNat → low.toNat ≤ c.toNat) ∧
        (b.toNat = y.toNat → c.toNat ≤ high.toNat) := by
  have hleast : (0x80 : UInt8).toNat = 0x80 := rfl
  have hgreatest : (0xbf : UInt8).toNat = 0xbf := rfl
  simp only [IsContinuation, UInt8.le_iff_toNat_le, ← UInt8.toNat_inj]
  split_ifs <;> omega

lemma spells_of_completes {index : Nat} {b : UInt8} {p : Pending} {bytes : List UInt8}
    {code : Nat} (hb : Begins index b p) (h : Completes p bytes code) :
    Spells (b :: bytes) code := by
  cases hb with
  -- the first byte says how many are to come; all other numbers contradict it
  | two hb =>
    cases h with
    | last _ hc => exact .two hb (isContinuation_iff.mpr hc) rfl
    | next hmore => cases hmore
  | three hb =>
    cases h with
    | last hmore => cases hmore
    | next hmore hc h =>
      cases hmore
      cases h with
      | last _ hd =>
        exact .three hb ((second_iff (by decide) (by decide)).mp hc) (isContinuation_iff.mpr hd) rfl
      | next hmore => cases hmore
  | four hb =>
    cases h with
    | last hmore => cases hmore
    | next hmore hc h =>
      cases hmore
      cases h with
      | last hmore => cases hmore
      | next hmore hd h =>
        cases hmore
        cases h with
        | last _ he =>
          exact .four hb ((second_iff (by decide) (by decide)).mp hc) (isContinuation_iff.mpr hd)
            (isContinuation_iff.mpr he) rfl
        | next hmore => cases hmore

lemma Spells.exists_completes {bytes : List UInt8} {code : Nat} (h : Spells bytes code)
    (index : Nat) :
    ∃ b rest p, bytes = b :: rest ∧ Begins index b p ∧ Completes p rest code := by
  cases h with
  | two hb hc hcode =>
    subst hcode
    exact ⟨_, _, _, rfl, .two hb, .last rfl (isContinuation_iff.mp hc)⟩
  | three hb hc hd hcode =>
    subst hcode
    exact ⟨_, _, _, rfl, .three hb, .next rfl ((second_iff (by decide) (by decide)).mpr hc)
      (.last rfl (isContinuation_iff.mp hd))⟩
  | four hb hc hd he hcode =>
    subst hcode
    exact ⟨_, _, _, rfl, .four hb, .next rfl ((second_iff (by decide) (by decide)).mpr hc)
      (.next rfl (isContinuation_iff.mp hd) (.last rfl (isContinuation_iff.mp he)))⟩

/-! ### All bytes -/

lemma decodeFrom_utf8EncodeChar (c : Char) (index : Nat) (rest : List UInt8) :
    decodeFrom index none (String.utf8EncodeChar c ++ rest) =
      (c :: ·) <$> decodeFrom (index + (String.utf8EncodeChar c).length) none rest := by
  by_cases h : c.toNat < 0x80
  · have hbytes : String.utf8EncodeChar c = [UInt8.ofNat c.toNat] :=
      if_pos (Nat.le_of_lt_succ h)
    have hbyte : (UInt8.ofNat c.toNat).toNat = c.toNat :=
      UInt8.toNat_ofNat_of_lt (Nat.lt_trans h (by decide))
    have hlt : UInt8.ofNat c.toNat < 0x80 := by
      rwa [UInt8.lt_iff_toNat_lt, hbyte]
    rw [hbytes, List.singleton_append, decodeFrom, if_pos hlt, hbyte, Char.ofNat_toNat]
    rfl
  · obtain ⟨b, bytes, p, hbytes, hbegins, hcompletes⟩ :=
      (spells_utf8EncodeChar (Nat.le_of_not_lt h)).exists_completes index
    rw [hbytes, List.cons_append, decodeFrom, if_neg hbegins.not_ascii,
      first_eq_some_iff.mpr hbegins]
    simp only
    rw [decodeFrom_completes hcompletes, Char.ofNat_toNat, List.length_cons, Nat.add_right_comm,
      Nat.add_assoc]

lemma decodeFrom_flatMap (index : Nat) (chars : List Char) :
    decodeFrom index none (chars.flatMap String.utf8EncodeChar) = .ok chars := by
  induction chars generalizing index with
  | nil => rfl
  | cons c chars ih =>
    rw [List.flatMap_cons, decodeFrom_utf8EncodeChar, ih]
    rfl

/-- Bytes that decode begin with those of a character. -/
lemma exists_utf8EncodeChar {index : Nat} {b : UInt8} {bytes : List UInt8} {chars : List Char}
    (h : decodeFrom index none (b :: bytes) = .ok chars) :
    ∃ c rest, b :: bytes = String.utf8EncodeChar c ++ rest := by
  rw [decodeFrom] at h
  split at h
  · next hb =>
    have hb : b.toNat < 0x80 := UInt8.lt_iff_toNat_lt.mp hb
    have hcode : (Char.ofNat b.toNat).val.toNat = b.toNat := toNat_val_ofNat (by omega)
    have hbytes : String.utf8EncodeChar (Char.ofNat b.toNat) = [b] := by
      simp only [String.utf8EncodeChar, hcode, if_pos (Nat.le_of_lt_succ hb), UInt8.ofNat_toNat]
    exact ⟨Char.ofNat b.toNat, bytes, by rw [hbytes, List.singleton_append]⟩
  · split at h
    · cases h
    · next p hfirst =>
      obtain ⟨first, code, rest, hcompletes, rfl⟩ := exists_completes h
      refine ⟨Char.ofNat code, rest, ?_⟩
      rw [(spells_of_completes (first_eq_some_iff.mp hfirst) hcompletes).encoded, List.cons_append]

/-- Bytes that decode are none, or those of the first character and others, which decode to the
characters after it. -/
lemma decodeFrom_cases {index : Nat} {bytes : List UInt8} {chars : List Char}
    (h : decodeFrom index none bytes = .ok chars) :
    bytes = [] ∧ chars = [] ∨ ∃ c rest later index', bytes = String.utf8EncodeChar c ++ rest ∧
      chars = c :: later ∧ decodeFrom index' none rest = .ok later := by
  cases bytes with
  | nil =>
    cases h
    exact Or.inl ⟨rfl, rfl⟩
  | cons b bytes =>
    obtain ⟨c, rest, hbytes⟩ := exists_utf8EncodeChar h
    rw [hbytes, decodeFrom_utf8EncodeChar] at h
    cases hlater : decodeFrom (index + (String.utf8EncodeChar c).length) none rest with
    | error e =>
      rw [hlater] at h
      cases h
    | ok later =>
      rw [hlater] at h
      cases h
      exact Or.inr ⟨c, rest, later, _, hbytes, rfl, hlater⟩

lemma decodeFrom_eq_ok_iff {index : Nat} {bytes : List UInt8} {chars : List Char} :
    decodeFrom index none bytes = .ok chars ↔ bytes = chars.flatMap String.utf8EncodeChar := by
  constructor
  · intro h
    induction chars generalizing index bytes with
    | nil =>
      obtain ⟨rfl, -⟩ | ⟨c, rest, later, index', -, hchars, -⟩ := decodeFrom_cases h
      · rfl
      · cases hchars
    | cons c chars ih =>
      obtain ⟨-, hchars⟩ | ⟨c, rest, later, index', rfl, hchars, hlater⟩ := decodeFrom_cases h
      · cases hchars
      · cases hchars
        rw [List.flatMap_cons, ih hlater]
  · rintro rfl
    exact decodeFrom_flatMap index chars

end Utf8

/-- Bytes decode to a text if and only if they are its encoding. -/
lemma decodeUtf8_eq_ok_iff {bytes : List UInt8} {s : String} :
    decodeUtf8 bytes = .ok s ↔ bytes = encodeUtf8 s := by
  rw [encodeUtf8, ← @Utf8.decodeFrom_eq_ok_iff 0, decodeUtf8]
  cases Utf8.decodeFrom 0 none bytes with
  | error e =>
    constructor <;> intro h <;> cases h
  | ok chars =>
    show Except.ok (String.ofList chars) = _ ↔ _
    simp only [Except.ok.injEq]
    constructor
    · rintro rfl
      exact String.toList_ofList.symm
    · rintro rfl
      exact String.ofList_toList

end Backfill.Text
