import Mathlib.Data.List.TakeWhile
import Backfill.Settings.Document
import Backfill.Toml.Document

/-!
# Written values

Texts, numbers and keys as they stand in a line are read back. Each statement is about what is
written followed by the rest of the text, so that they can be put together.
-/

namespace Backfill.Toml

/-- Characters differ if one belongs to a class and the other does not. -/
lemma ne_of_class {p : Char → Bool} {c d : Char} (hc : p c) (hd : p d = false) : c ≠ d := by
  rintro rfl
  exact Bool.false_ne_true (hd.symm.trans hc)

/-! ### Texts -/

section

open Settings (escaped hexDigit textValue)

lemma hexDigit?_hexDigit {n : Nat} (h : n < 16) : Text.hexDigit? (hexDigit n) = some n := by
  have hall : ∀ n < 16, Text.hexDigit? (hexDigit n) = some n := by decide
  exact hall n h

lemma char?_toNat (c : Char) : char? c.toNat = some c := by
  have hvalid : c.toNat.isValidChar := c.valid
  rw [char?, if_pos hvalid, Char.ofNat_toNat]

/-- A control character is written by its number. -/
lemma basicRest?_code {c : Char} (h : c.toNat < 256) (rest : List Char) :
    basicRest? (.code 3 0)
        ('0' :: '0' :: hexDigit (c.toNat / 16) :: hexDigit (c.toNat % 16) :: rest) =
      push c (basicRest? (.plain false) rest) := by
  have hzero : Text.hexDigit? '0' = some 0 := rfl
  have hhigh : Text.hexDigit? (hexDigit (c.toNat / 16)) = some (c.toNat / 16) :=
    hexDigit?_hexDigit (by omega)
  have hlow : Text.hexDigit? (hexDigit (c.toNat % 16)) = some (c.toNat % 16) :=
    hexDigit?_hexDigit (Nat.mod_lt _ (by decide))
  have hvalue : 16 * (16 * (16 * (16 * 0 + 0) + 0) + c.toNat / 16) + c.toNat % 16 = c.toNat := by
    omega
  simp only [basicRest?, hzero, hhigh, hlow, hvalue, char?_toNat]

lemma basicRest?_escaped (c : Char) (skipping : Bool) (rest : List Char) :
    basicRest? (.plain skipping) (escaped c ++ rest) = push c (basicRest? (.plain false) rest) := by
  unfold escaped
  split_ifs with hquote hbackslash hcontrol
  · subst hquote
    rfl
  · subst hbackslash
    rfl
  · exact basicRest?_code (by omega) rest
  · have hplain : isPlain c := by simp [isPlain]; omega
    simp only [List.singleton_append, basicRest?, if_neg hquote, if_neg hbackslash, if_pos hplain]

lemma basicRest?_text (cs : List Char) (skipping : Bool) (rest : List Char) :
    basicRest? (.plain skipping) (cs.flatMap escaped ++ '"' :: rest) = some (cs, rest) := by
  induction cs generalizing skipping with
  | nil => rfl
  | cons c cs ih =>
    rw [List.flatMap_cons, List.append_assoc, basicRest?_escaped, ih]
    rfl

lemma escaped_eq_cons (c : Char) : ∃ d ds, escaped c = d :: ds ∧ d ≠ '"' := by
  unfold escaped
  split_ifs with hquote
  · exact ⟨_, _, rfl, by decide⟩
  · exact ⟨_, _, rfl, by decide⟩
  · exact ⟨_, _, rfl, by decide⟩
  · exact ⟨_, _, rfl, hquote⟩

lemma string?_textValue (s : String) (rest : List Char) :
    string? (textValue s ++ '\n' :: rest) = some (s.toList, '\n' :: rest) := by
  have htext : textValue s ++ '\n' :: rest =
      '"' :: (s.toList.flatMap escaped ++ '"' :: '\n' :: rest) := by simp [textValue]
  rw [htext]
  -- three quotes would begin a text of another form
  have hquotes : string? ('"' :: (s.toList.flatMap escaped ++ '"' :: '\n' :: rest)) =
      basicRest? (.plain false) (s.toList.flatMap escaped ++ '"' :: '\n' :: rest) := by
    cases s.toList with
    | nil => rfl
    | cons c cs =>
      obtain ⟨d, ds, hescaped, hd⟩ := escaped_eq_cons c
      rw [List.flatMap_cons, hescaped]
      simp [string?, hd]
  rw [hquotes, basicRest?_text]

lemma scalar?_textValue (s : String) (rest : List Char) :
    scalar? (textValue s ++ '\n' :: rest) = some (.string s, '\n' :: rest) := by
  have hstring := string?_textValue s rest
  unfold scalar?
  split
  · rename_i heq
    cases heq
  · rename_i heq
    cases heq
  · simp [hstring]

end

/-! ### Numbers -/

section

open Text (digits)

/-- No digit but the only one is zero at the start. -/
lemma digits_eq_cons (n : Nat) :
    ∃ c cs, digits n = c :: cs ∧ (c = '0' → n = 0) := by
  induction n using Nat.strongRecOn with
  | _ n ih =>
    by_cases h : n < 10
    · refine ⟨n.digitChar, [], Nat.toDigits_of_lt_base h, ?_⟩
      have hall : ∀ n < 10, n.digitChar = '0' → n = 0 := by decide
      exact hall n h
    · obtain ⟨c, cs, hdigits, hc⟩ := ih (n / 10) (by omega)
      refine ⟨c, cs ++ [(n % 10).digitChar], ?_, fun hzero => ?_⟩
      · rw [digits, Nat.toDigits_of_base_le (by decide) (by omega), ← digits, hdigits]
        rfl
      · have := hc hzero
        omega

lemma hexDigit?_of_isDigit {c : Char} (h : c.isDigit) :
    Text.hexDigit? c = some (c.toNat - '0'.toNat) := by
  rw [Text.hexDigit?, if_pos h]

lemma ofBase_digits (n : Nat) : ofBase 10 (digits n) = n := by
  have hfold (ds : List Char) (hds : ∀ c ∈ ds, c.isDigit) (init : Nat) :
      ds.foldl (fun n c => 10 * n + (Text.hexDigit? c).getD 0) init =
        Nat.ofDigitChars 10 ds init := by
    induction ds generalizing init with
    | nil => rfl
    | cons c cs ih =>
      obtain ⟨hc, hcs⟩ := List.forall_mem_cons.mp hds
      rw [List.foldl_cons, hexDigit?_of_isDigit hc, ih hcs, Nat.ofDigitChars_cons]
      rfl
  rw [ofBase, hfold _ fun c => Text.isDigit_of_mem_digits]
  exact Text.ofDigits_digits n

lemma moreDigits?_append {ds : List Char} (hds : ∀ c ∈ ds, c.isDigit) (rest : List Char) :
    moreDigits? Char.isDigit (ds ++ '\n' :: rest) = some (ds, '\n' :: rest) := by
  induction ds with
  | nil => rfl
  | cons c cs ih =>
    obtain ⟨hc, hcs⟩ := List.forall_mem_cons.mp hds
    have hunderscore : c ≠ '_' := ne_of_class hc rfl
    simp [moreDigits?, hc, ih hcs, push]

lemma sign_of_isDigit {c : Char} (h : c.isDigit) (cs : List Char) :
    sign (c :: cs) = (false, c :: cs) := by
  have hminus : c ≠ '-' := ne_of_class h rfl
  have hplus : c ≠ '+' := ne_of_class h rfl
  simp [sign, hminus, hplus]

lemma string?_of_isDigit {c : Char} (h : c.isDigit) (cs : List Char) :
    string? (c :: cs) = none := by
  have hdouble : c ≠ '"' := ne_of_class h rfl
  have hsingle : c ≠ '\x27' := ne_of_class h rfl
  simp [string?, hdouble, hsingle]

lemma special?_of_isDigit {c : Char} (h : c.isDigit) (cs : List Char) :
    special? (c :: cs) = none := by
  have hi : c ≠ 'i' := ne_of_class h rfl
  have hn : c ≠ 'n' := ne_of_class h rfl
  simp [special?, sign_of_isDigit h, hi, hn]

lemma decimal?_digits (n : Nat) (rest : List Char) :
    decimal? (digits n ++ '\n' :: rest) = some ((false, digits n), '\n' :: rest) := by
  obtain ⟨c, cs, hdigits, hzero⟩ := digits_eq_cons n
  have hall : ∀ d ∈ c :: cs, d.isDigit := by
    rw [← hdigits]
    exact fun d => Text.isDigit_of_mem_digits
  obtain ⟨hc, hcs⟩ := List.forall_mem_cons.mp hall
  by_cases hc0 : c = '0'
  · rw [hzero hc0]
    rfl
  · rw [hdigits, List.cons_append]
    simp [decimal?, sign_of_isDigit hc, hc0, digits?, hc, moreDigits?_append hcs, push]

/-- Nothing but digits stands before the end of the line. -/
lemma char1?_of_fixed? {ds : List Char} (hds : ∀ c ∈ ds, c.isDigit) {rest rest' : List Char}
    {count n : Nat} (h : fixed? count (ds ++ '\n' :: rest) = some (n, rest')) {c : Char}
    (hc : ¬ c.isDigit) (hbreak : c ≠ '\n') : char1? c rest' = none := by
  simp only [fixed?] at h
  split_ifs at h with htake
  obtain ⟨-, hall⟩ := htake
  cases h
  -- no more characters are taken than there are digits, as the line break is none
  have hcount : count ≤ ds.length := by
    by_contra hlt
    have hmem : '\n' ∈ (ds ++ '\n' :: rest).take count := by
      rw [List.take_append]
      refine List.mem_append_right _ ?_
      obtain ⟨k, hk⟩ := Nat.exists_eq_add_of_lt (Nat.lt_of_not_le hlt)
      simp [hk, Nat.add_assoc]
    have := List.all_eq_true.mp hall _ hmem
    cases this
  rw [List.drop_append_of_le_length hcount]
  cases hdrop : ds.drop count with
  | nil => simp [char1?, hbreak.symm]
  | cons d more =>
    have hd : d.isDigit := hds d (List.mem_of_mem_drop (by rw [hdrop]; simp))
    have hne : d ≠ c := by
      rintro rfl
      exact hc hd
    simp [char1?, hne]

lemma dateTime?_digits (n : Nat) (rest : List Char) :
    dateTime? (digits n ++ '\n' :: rest) = none := by
  have hdigits : ∀ c ∈ digits n, c.isDigit := fun c => Text.isDigit_of_mem_digits
  have hdate : date? (digits n ++ '\n' :: rest) = none := by
    unfold date?
    cases h : fixed? 4 (digits n ++ '\n' :: rest) with
    | none => rfl
    | some x => simp [char1?_of_fixed? hdigits h (c := '-') (by decide) (by decide)]
  have htime : time? (digits n ++ '\n' :: rest) = none := by
    unfold time? field?
    cases h : fixed? 2 (digits n ++ '\n' :: rest) with
    | none => rfl
    | some x => simp [char1?_of_fixed? hdigits h (c := ':') (by decide) (by decide)]
  rw [dateTime?, dateTimeEnd?, hdate, htime]
  rfl

lemma finite?_digits (n : Nat) (rest : List Char) : finite? (digits n ++ '\n' :: rest) = none := by
  rw [finite?, decimal?_digits]
  rfl

lemma integer?_digits (n : Nat) (rest : List Char) :
    integer? (digits n ++ '\n' :: rest) = (fits? n).map fun n => (n, '\n' :: rest) := by
  have hdecimal := decimal?_digits n rest
  obtain ⟨c, cs, hdigits, hzero⟩ := digits_eq_cons n
  by_cases hc : c = '0'
  · rw [hzero hc]
    rfl
  · have hbase : ofBase 10 (c :: cs) = n := by rw [← hdigits, ofBase_digits]
    rw [hdigits, List.cons_append] at hdecimal ⊢
    cases hfits : fits? (n : Int) with
    | none => simp [integer?, hc, hdecimal, hbase, hfits]
    | some m => simp [integer?, hc, hdecimal, hbase, hfits]

lemma scalar?_digits (n : Nat) (rest : List Char) :
    scalar? (digits n ++ '\n' :: rest) = (fits? n).map fun n => (.integer n, '\n' :: rest) := by
  have hdate := dateTime?_digits n rest
  have hfinite := finite?_digits n rest
  have hinteger := integer?_digits n rest
  obtain ⟨c, cs, hdigits, -⟩ := digits_eq_cons n
  have hc : c.isDigit := Text.isDigit_of_mem_digits (n := n) (by simp [hdigits])
  have ht : c ≠ 't' := ne_of_class hc rfl
  have hf : c ≠ 'f' := ne_of_class hc rfl
  rw [hdigits, List.cons_append] at hdate hfinite hinteger ⊢
  have hscalar : scalar? (c :: (cs ++ '\n' :: rest)) =
      (integer? (c :: (cs ++ '\n' :: rest))).map fun p => (.integer p.1, p.2) := by
    simp [scalar?, ht, hf, string?_of_isDigit hc, hdate, hfinite, special?_of_isDigit hc]
  rw [hscalar, hinteger, Option.map_map]
  rfl

end

/-! ### Keys -/

/-- A key that may stand without quotes. -/
def IsBareKey (name : String) : Prop :=
  name.toList ≠ [] ∧ name.toList.all isBare

instance (name : String) : Decidable (IsBareKey name) :=
  inferInstanceAs (Decidable (_ ∧ _))

/-- Keys with points between them. -/
def dotted : List String → List Char
  | [] => []
  | [name] => name.toList
  | name :: names => name.toList ++ '.' :: dotted names

lemma dotted_cons_cons (name name' : String) (names : List String) :
    dotted (name :: name' :: names) = name.toList ++ '.' :: dotted (name' :: names) :=
  rfl

lemma IsBareKey.of_mem {name : String} (h : IsBareKey name) : ∀ c ∈ name.toList, isBare c :=
  List.all_eq_true.mp h.2

lemma IsBareKey.eq_cons {name : String} (h : IsBareKey name) :
    ∃ c cs, name.toList = c :: cs ∧ isBare c := by
  obtain ⟨c, cs, hname⟩ := List.exists_cons_of_ne_nil h.1
  exact ⟨c, cs, hname, h.of_mem c (by simp [hname])⟩

lemma dotted_eq_cons {names : List String} (hne : names ≠ [])
    (h : ∀ name ∈ names, IsBareKey name) : ∃ c cs, dotted names = c :: cs ∧ isBare c := by
  match names with
  | [name] => exact (h name (by simp)).eq_cons
  | name :: name' :: names =>
    obtain ⟨c, cs, hname, hc⟩ := (h name (by simp)).eq_cons
    exact ⟨c, cs ++ '.' :: dotted (name' :: names), by simp [dotted_cons_cons, hname], hc⟩

lemma IsBareKey.keyPart? {name : String} (h : IsBareKey name) {rest : List Char}
    (hrest : rest.takeWhile isBare = []) : keyPart? (name.toList ++ rest) = some (name, rest) := by
  obtain ⟨c, cs, hname, hc⟩ := h.eq_cons
  have hdouble : c ≠ '"' := ne_of_class hc rfl
  have hsingle : c ≠ '\x27' := ne_of_class hc rfl
  have htake : (name.toList ++ rest).takeWhile isBare = name.toList := by
    rw [List.takeWhile_append_of_pos h.of_mem, hrest, List.append_nil]
  have hdrop : (name.toList ++ rest).dropWhile isBare = rest := by
    rw [List.dropWhile_append_of_pos h.of_mem]
    simpa [hrest] using rest.takeWhile_append_dropWhile (p := isBare)
  unfold Toml.keyPart?
  split
  · rename_i heq
    simp [hname, hdouble] at heq
  · rename_i heq
    simp [hname, hsingle] at heq
  · simp [htake, hdrop, h.1]

lemma IsBareKey.skipBlanks {name : String} (h : IsBareKey name) (rest : List Char) :
    skipBlanks (name.toList ++ rest) = name.toList ++ rest := by
  obtain ⟨c, cs, hname, hc⟩ := h.eq_cons
  have hspace : c ≠ ' ' := ne_of_class hc rfl
  have htab : c ≠ '\t' := ne_of_class hc rfl
  simp [hname, Toml.skipBlanks, isBlank, hspace, htab]

lemma keyParts?_dotted {names : List String} (hne : names ≠ []) (h : ∀ name ∈ names, IsBareKey name)
    {parts : Nat} (hparts : names.length ≤ parts) {rest : List Char}
    (hrest : rest.takeWhile isBare = []) (hpoint : (skipBlanks rest).head? ≠ some '.') :
    keyParts? parts (dotted names ++ rest) = some (names, skipBlanks rest) := by
  induction names generalizing parts with
  | nil => contradiction
  | cons name names ih =>
    obtain ⟨parts, rfl⟩ := Nat.exists_eq_add_of_lt hparts
    obtain ⟨hname, hnames⟩ := List.forall_mem_cons.mp h
    cases names with
    | nil =>
      rw [dotted, keyParts?, hname.skipBlanks, hname.keyPart? hrest]
      dsimp only
      split
      · rename_i heq
        simp [heq] at hpoint
      · rfl
    | cons name' names =>
      rw [dotted_cons_cons, List.append_assoc, keyParts?, hname.skipBlanks, hname.keyPart? rfl]
      have hmore := ih (List.cons_ne_nil _ _) hnames (Nat.le_add_right _ parts)
      show (keyParts? _ (dotted (name' :: names) ++ rest)).map _ = _
      rw [hmore]
      rfl

lemma key?_dotted (path : List String) (key : String) (h : ∀ name ∈ path ++ [key], IsBareKey name)
    (hpath : path.length < maxDepth) {rest : List Char} (hrest : rest.takeWhile isBare = [])
    (hpoint : (skipBlanks rest).head? ≠ some '.') :
    key? (dotted (path ++ [key]) ++ rest) = some ((path, key), skipBlanks rest) := by
  have hparts : (path ++ [key]).length ≤ maxDepth := by
    rw [List.length_append]
    exact hpath
  rw [key?, keyParts?_dotted (by simp) h hparts hrest hpoint]
  simp

/-! ### Lines -/

/-- Some text before the end of a line is read as the value, if there is one. -/
def ReadsAs (cs : List Char) (v : Option Value) : Prop :=
  ∀ rest, skipBlanks (cs ++ '\n' :: rest) = cs ++ '\n' :: rest ∧
    value? maxDepth (cs ++ '\n' :: rest) = v.map fun v => (v, '\n' :: rest)

lemma value?_of_scalar {c : Char} (harray : c ≠ '[') (htable : c ≠ '\x7b') (depth : Nat)
    (cs : List Char) : value? depth (c :: cs) = scalar? (c :: cs) := by
  cases depth with
  | zero => rfl
  | succ depth => simp [value?, harray, htable]

lemma readsAs_textValue (s : String) : ReadsAs (Settings.textValue s) (some (.string s)) := by
  intro rest
  constructor
  · rfl
  · exact (value?_of_scalar (by decide) (by decide) _ _).trans (scalar?_textValue s rest)

lemma readsAs_digits (n : Nat) : ReadsAs (Text.digits n) ((fits? n).map .integer) := by
  intro rest
  have hscalar := scalar?_digits n rest
  obtain ⟨c, cs, hdigits, -⟩ := digits_eq_cons n
  have hc : c.isDigit := Text.isDigit_of_mem_digits (n := n) (by simp [hdigits])
  have hspace : c ≠ ' ' := ne_of_class hc rfl
  have htab : c ≠ '\t' := ne_of_class hc rfl
  rw [hdigits, List.cons_append] at hscalar ⊢
  constructor
  · simp [skipBlanks, isBlank, hspace, htab]
  · rw [value?_of_scalar (ne_of_class hc rfl) (ne_of_class hc rfl), hscalar, Option.map_map]
    rfl

section

variable (fuel : Nat) (d : Draft) (rest : List Char)

lemma lines?_header {path : List String} {key : String} (h : ∀ name ∈ path ++ [key], IsBareKey name)
    (hpath : path.length < maxDepth) :
    lines? (fuel + 1) d ('[' :: (dotted (path ++ [key]) ++ ']' :: '\n' :: rest)) =
      d.openTable? path key >>= fun d => lines? fuel d rest := by
  have hkey : key? (dotted (path ++ [key]) ++ ']' :: '\n' :: rest) =
      some ((path, key), ']' :: '\n' :: rest) :=
    key?_dotted path key h hpath rfl (by simp [skipBlanks, isBlank])
  obtain ⟨c, cs, hdotted, hc⟩ := dotted_eq_cons (by simp) h
  have hbracket : c ≠ '[' := ne_of_class hc rfl
  have hend : lineEnd? ('\n' :: rest) = some rest := rfl
  rw [hdotted, List.cons_append] at hkey ⊢
  simp [lines?, skipBlanks, isBlank, hbracket, hkey, char1?, hend]

lemma line_append (name : String) (value : List Char) :
    Settings.line name value ++ rest =
      name.toList ++ ' ' :: '=' :: ' ' :: (value ++ '\n' :: rest) := by
  simp [Settings.line]

lemma pair?_line {name : String} (h : IsBareKey name) {value : List Char} {v : Option Value}
    (hv : ReadsAs value v) :
    pair? (value? maxDepth) (Settings.line name value ++ rest) =
      v.map fun v => ((([], name), v), '\n' :: rest) := by
  obtain ⟨hskip, hvalue⟩ := hv rest
  have hkey : key? (Settings.line name value ++ rest) =
      some (([], name), '=' :: ' ' :: (value ++ '\n' :: rest)) := by
    rw [line_append]
    have hrest : (' ' :: '=' :: ' ' :: (value ++ '\n' :: rest)).takeWhile isBare = [] := rfl
    exact key?_dotted [] name (List.forall_mem_singleton.mpr h) (by decide) hrest
      (by simp [skipBlanks, isBlank])
  have hspace : skipBlanks (' ' :: (value ++ '\n' :: rest)) = value ++ '\n' :: rest := hskip
  cases v with
  | none => simp [pair?, hkey, char1?, hspace, hvalue]
  | some v => simp [pair?, hkey, char1?, hspace, hvalue]

lemma lines?_pair {name : String} (h : IsBareKey name) {value : List Char} {v : Option Value}
    (hv : ReadsAs value v) :
    lines? (fuel + 1) d (Settings.line name value ++ rest) =
      v >>= d.add? [] name >>= fun d => lines? fuel d rest := by
  have hpair := pair?_line rest h hv
  have hblank :
      skipBlanks (Settings.line name value ++ rest) = Settings.line name value ++ rest := by
    rw [line_append, h.skipBlanks]
  obtain ⟨c, cs, hname, hc⟩ := h.eq_cons
  have hbracket : c ≠ '[' := ne_of_class hc rfl
  have hother : ¬ (c = '\n' ∨ c = '\r' ∨ c = '#') := by
    rintro (rfl | rfl | rfl) <;> cases hc
  have hend : lineEnd? ('\n' :: rest) = some rest := rfl
  rw [line_append, hname, List.cons_append] at hpair hblank ⊢
  rw [lines?, hblank]
  cases v with
  | none => simp [hbracket, hother, hpair]
  | some v => simp [hbracket, hother, hpair, hend]

end

end Backfill.Toml
