import Mathlib.Data.List.Infix
import SensorServer.Lib.Table

/-! The ASCII text of a JSON document of strings, arrays and objects, and where a word
can stand in it: a word that no structure and no escape begins stands in the text exactly
where it stands in one of the strings. -/
namespace JsonText

section Words
variable {α : Type} {p q : α} {word a b : List α}

theorem infix_append_of_notMem (absent : p ∉ a) : p :: word <:+: a ++ b ↔ p :: word <:+: b := by
  induction a with
  | nil => rw [List.nil_append]
  | cons x a ih =>
    rw [List.mem_cons, not_or] at absent
    rw [List.cons_append, List.infix_cons_iff, ih absent.2, List.cons_prefix_cons]
    exact or_iff_right (fun h => absent.1 h.1)

theorem prefix_append_cons (absent : q ∉ word) : word <+: a ++ q :: b ↔ word <+: a := by
  induction a generalizing word with
  | nil =>
    cases word with
    | nil => simp
    | cons x xs =>
      have other : x ≠ q := fun same => absent (same ▸ List.mem_cons_self)
      rw [List.nil_append, List.cons_prefix_cons]
      simp [other]
  | cons y a ih =>
    cases word with
    | nil => simp
    | cons x xs =>
      rw [List.cons_append, List.cons_prefix_cons, List.cons_prefix_cons,
        ih (fun member => absent (List.mem_cons_of_mem _ member))]

theorem infix_append_cons (absent : q ∉ p :: word) :
    p :: word <:+: a ++ q :: b ↔ p :: word <:+: a ∨ p :: word <:+: b := by
  induction a with
  | nil =>
    rw [List.mem_cons, not_or] at absent
    rw [List.nil_append, List.infix_cons_iff, List.cons_prefix_cons]
    simp [Ne.symm absent.1]
  | cons y a ih =>
    rw [List.cons_append, List.infix_cons_iff, ← List.cons_append, prefix_append_cons absent, ih,
      List.infix_cons_iff, or_assoc]

end Words

inductive Doc where
  | str (s : String)
  | arr (items : List Doc)
  | obj (fields : List (String × Doc))

def hexDigit (n : Nat) : Char := Nat.digitChar (n % 16)

def unicodeEscape (n : Nat) : List Char :=
  ['\\', 'u', hexDigit (n / 4096), hexDigit (n / 256), hexDigit (n / 16), hexDigit n]

def plain (c : Char) : Bool :=
  decide (32 ≤ c.toNat) && decide (c.toNat ≤ 126) && decide (c.toNat ≠ 34) && decide (c ≠ '\\')

def shortEscape (c : Char) : Option Char :=
  [(Char.ofNat 34, Char.ofNat 34), ('\\', '\\'), ('\n', 'n'), ('\r', 'r'), ('\t', 't'), ('\x08', 'b'),
    ('\x0c', 'f')].lookup c

def escape (c : Char) : List Char :=
  if plain c then [c]
  else match shortEscape c with
    | some letter => ['\\', letter]
    | none =>
      if c.toNat < 65536 then unicodeEscape c.toNat
      else unicodeEscape (55296 + (c.toNat - 65536) / 1024) ++ unicodeEscape (56320 + (c.toNat - 65536) % 1024)

def mark : Char := Char.ofNat 34

def quote (s : String) : List Char := mark :: (s.toList.flatMap escape ++ [mark])

mutual
def Doc.text : Doc → List Char
  | .str s => quote s
  | .arr items => '[' :: (textItems items ++ [']'])
  | .obj fields => '\x7b' :: (textFields fields ++ ['\x7d'])
def textItems : List Doc → List Char
  | [] => []
  | [d] => d.text
  | d :: e :: rest => d.text ++ ',' :: ' ' :: textItems (e :: rest)
def textFields : List (String × Doc) → List Char
  | [] => []
  | [(k, d)] => quote k ++ ':' :: ' ' :: d.text
  | (k, d) :: f :: rest => quote k ++ ':' :: ' ' :: (d.text ++ ',' :: ' ' :: textFields (f :: rest))
end

mutual
def Doc.strings : Doc → List String
  | .str s => [s]
  | .arr items => stringsItems items
  | .obj fields => stringsFields fields
def stringsItems : List Doc → List String
  | [] => []
  | d :: rest => d.strings ++ stringsItems rest
def stringsFields : List (String × Doc) → List String
  | [] => []
  | (k, d) :: rest => k :: (d.strings ++ stringsFields rest)
end

def Doc.dumps (d : Doc) : String := String.ofList d.text

def lower (cs : List Char) : List Char := cs.map Char.toLower

def occurs (word : String) (text : String) : Bool := decide (word.toList <:+: lower text.toList)

def marks : List Char := mark :: "[]\x7b\x7d,: \\ubfnrt0123456789abcdef".toList

/-- A word of characters that stand for themselves, which only a string can begin. -/
structure Word (p : Char) (ps : List Char) : Prop where
  plain : ∀ c ∈ p :: ps, plain c = true
  begins : p ∉ marks

theorem hexDigit_mem (n : Nat) : hexDigit n ∈ marks := by
  have digits : ∀ i : Fin 16, Nat.digitChar i ∈ marks := by decide
  exact digits ⟨n % 16, Nat.mod_lt n (by decide)⟩

theorem unicodeEscape_mem (n : Nat) : ∀ c ∈ unicodeEscape n, c ∈ marks := by
  intro c member
  simp only [unicodeEscape, List.mem_cons, List.not_mem_nil, or_false] at member
  rcases member with rfl | rfl | rfl | rfl | rfl | rfl
  · decide
  · decide
  all_goals exact hexDigit_mem _

theorem shortEscape_mem {c letter : Char} (short : shortEscape c = some letter) : letter ∈ marks := by
  have listed := mem_of_lookup short
  simp only [List.mem_cons, Prod.mk.injEq, List.not_mem_nil, or_false] at listed
  rcases listed with ⟨-, rfl⟩ | ⟨-, rfl⟩ | ⟨-, rfl⟩ | ⟨-, rfl⟩ | ⟨-, rfl⟩ | ⟨-, rfl⟩ | ⟨-, rfl⟩ <;> decide

theorem escape_cases (c : Char) :
    plain c = true ∧ escape c = [c] ∨
      plain c = false ∧ ∃ rest, escape c = '\\' :: rest ∧ ∀ x ∈ rest, x ∈ marks := by
  unfold escape
  cases standing : plain c with
  | true => exact .inl ⟨rfl, rfl⟩
  | false =>
    refine .inr ⟨rfl, ?_⟩
    cases short : shortEscape c with
    | some letter => exact ⟨[letter], rfl, fun x member => List.mem_singleton.mp member ▸ shortEscape_mem short⟩
    | none =>
      have inside : ∀ n, ∀ x ∈ (unicodeEscape n).tail, x ∈ marks :=
        fun n x member => unicodeEscape_mem n x (List.mem_of_mem_tail member)
      by_cases small : c.toNat < 65536
      · exact ⟨_, if_pos small, inside _⟩
      · refine ⟨_, if_neg small, fun x member => ?_⟩
        rcases List.mem_append.mp member with first | second
        · exact inside _ x first
        · exact unicodeEscape_mem _ x second

theorem lower_marks : ∀ x ∈ marks, x.toLower = x := by
  have fixed : marks.all (fun x => decide (x.toLower = x)) = true := by decide
  exact fun x member => of_decide_eq_true (List.all_eq_true.mp fixed x member)

theorem lower_of_plain {c : Char} (standing : plain c = false) : c.toLower = c := by
  unfold Char.toLower
  split
  · next upper =>
    have standing' : plain c = true := by
      simp only [plain, Bool.and_eq_true, decide_eq_true_eq]
      have low : 65 ≤ c.toNat := UInt32.le_iff_toNat_le.mp upper.1
      have high : c.toNat ≤ 90 := UInt32.le_iff_toNat_le.mp upper.2
      refine ⟨⟨⟨by omega, by omega⟩, by omega⟩, ?_⟩
      rintro rfl
      exact absurd high (by decide)
    rw [standing'] at standing
    cases standing
  · rfl

theorem lower_append (a b : List Char) : lower (a ++ b) = lower a ++ lower b := List.map_append

theorem lower_of_marks {cs : List Char} (inside : ∀ c ∈ cs, c ∈ marks) : lower cs = cs := by
  refine (List.map_congr_left (fun c member => lower_marks c (inside c member))).trans (List.map_id cs)

theorem stringsItems_cons (d : Doc) (rest : List Doc) :
    stringsItems (d :: rest) = d.strings ++ stringsItems rest := by
  rw [stringsItems]

theorem stringsFields_cons (k : String) (d : Doc) (rest : List (String × Doc)) :
    stringsFields ((k, d) :: rest) = k :: (d.strings ++ stringsFields rest) := by
  rw [stringsFields]

section Word
variable {p : Char} {ps : List Char}

def Among (p : Char) (ps : List Char) (strings : List String) : Prop := ∃ s ∈ strings, p :: ps <:+: lower s.toList

theorem among_cons {s : String} {strings : List String} :
    Among p ps (s :: strings) ↔ p :: ps <:+: lower s.toList ∨ Among p ps strings := by
  simp [Among]

theorem among_append {strings others : List String} :
    Among p ps (strings ++ others) ↔ Among p ps strings ∨ Among p ps others := by
  simp only [Among, List.mem_append, or_and_right, exists_or]

variable (word : Word p ps)
include word

theorem Word.begins_lower {cs : List Char} (inside : ∀ c ∈ cs, c ∈ marks) : p ∉ lower cs := by
  rw [lower_of_marks inside]
  exact fun member => word.begins (inside p member)

omit word in
theorem prefix_escape {w : List Char} (standing : ∀ c ∈ w, plain c = true) (cs : List Char) :
    w <+: lower (cs.flatMap escape) ↔ w <+: lower cs := by
  induction cs generalizing w with
  | nil => rfl
  | cons c cs ih =>
    cases w with
    | nil => simp
    | cons x xs =>
      have first := standing x List.mem_cons_self
      have others := ih (fun y member => standing y (List.mem_cons_of_mem _ member))
      rw [List.flatMap_cons, lower_append]
      rcases escape_cases c with ⟨-, same⟩ | ⟨strange, rest, escaped, -⟩
      · rw [same]
        change x :: xs <+: c.toLower :: lower (cs.flatMap escape) ↔ x :: xs <+: c.toLower :: lower cs
        rw [List.cons_prefix_cons, List.cons_prefix_cons, others]
      · rw [escaped]
        change x :: xs <+: '\\' :: _ ↔ x :: xs <+: c.toLower :: lower cs
        rw [List.cons_prefix_cons, List.cons_prefix_cons, lower_of_plain strange]
        refine iff_of_false (fun h => ?_) (fun h => ?_)
        · rw [h.1] at first
          exact absurd first (by decide)
        · rw [h.1, strange] at first
          cases first

theorem Word.infix_escape (cs : List Char) :
    p :: ps <:+: lower (cs.flatMap escape) ↔ p :: ps <:+: lower cs := by
  induction cs with
  | nil => rfl
  | cons c cs ih =>
    rcases escape_cases c with ⟨-, same⟩ | ⟨strange, rest, escaped, inside⟩
    · have start := prefix_escape word.plain (c :: cs)
      rw [List.flatMap_cons, same] at start ⊢
      change p :: ps <:+: c.toLower :: lower (cs.flatMap escape) ↔ p :: ps <:+: c.toLower :: lower cs
      rw [List.infix_cons_iff, List.infix_cons_iff, ih]
      exact or_congr start Iff.rfl
    · have all : ∀ x ∈ escape c, x ∈ marks := by
        intro x member
        rw [escaped] at member
        rcases List.mem_cons.mp member with rfl | later
        · decide
        · exact inside x later
      have other : p ∉ [c] := by
        rw [List.mem_singleton]
        rintro rfl
        rw [word.plain _ List.mem_cons_self] at strange
        cases strange
      rw [List.flatMap_cons, lower_append, infix_append_of_notMem (word.begins_lower all), ih]
      change _ ↔ p :: ps <:+: [c.toLower] ++ lower cs
      rw [lower_of_plain strange, infix_append_of_notMem other]

theorem Word.infix_quote (s : String) (rest : List Char) :
    p :: ps <:+: lower (quote s ++ rest) ↔ p :: ps <:+: lower s.toList ∨ p :: ps <:+: lower rest := by
  have opening : [mark] ⊆ marks := by decide
  have closing : mark ∉ p :: ps := fun member => absurd (word.plain _ member) (by decide)
  have shape : lower (quote s ++ rest) = lower [mark] ++
      (lower (s.toList.flatMap escape) ++ mark :: lower rest) := by
    rw [quote, List.cons_append, List.append_assoc, ← List.singleton_append, lower_append, lower_append]
    rfl
  rw [shape, infix_append_of_notMem (word.begins_lower opening), infix_append_cons closing, word.infix_escape]

theorem Word.infix_marks {cs : List Char} (inside : cs ⊆ marks) (rest : List Char) :
    p :: ps <:+: lower (cs ++ rest) ↔ p :: ps <:+: lower rest := by
  rw [lower_append, infix_append_of_notMem (word.begins_lower inside)]

mutual
theorem Word.infix_text : ∀ (d : Doc) (rest : List Char),
    p :: ps <:+: lower (d.text ++ rest) ↔ Among p ps d.strings ∨ p :: ps <:+: lower rest
  | .str s, rest => by
    rw [Doc.text, Doc.strings, word.infix_quote]
    simp [Among]
  | .arr items, rest => by
    have shape : (Doc.arr items).text ++ rest = ['['] ++ (textItems items ++ ([']'] ++ rest)) := by
      simp [Doc.text]
    rw [shape, word.infix_marks (by decide), Word.infix_textItems items, word.infix_marks (by decide), Doc.strings]
  | .obj fields, rest => by
    have shape : (Doc.obj fields).text ++ rest = ['\x7b'] ++ (textFields fields ++ (['\x7d'] ++ rest)) := by
      simp [Doc.text]
    rw [shape, word.infix_marks (by decide), Word.infix_textFields fields,
      word.infix_marks (by decide), Doc.strings]
theorem Word.infix_textItems : ∀ (items : List Doc) (rest : List Char),
    p :: ps <:+: lower (textItems items ++ rest) ↔ Among p ps (stringsItems items) ∨ p :: ps <:+: lower rest
  | [], rest => by simp [textItems, stringsItems, Among]
  | [d], rest => by
    rw [textItems, Word.infix_text d, stringsItems, stringsItems, List.append_nil]
  | d :: e :: more, rest => by
    have shape : textItems (d :: e :: more) ++ rest = d.text ++
        ([',', ' '] ++ (textItems (e :: more) ++ rest)) := by
      simp [textItems]
    rw [shape, Word.infix_text d, word.infix_marks (by decide), Word.infix_textItems (e :: more),
      stringsItems_cons d, among_append, or_assoc]
theorem Word.infix_textFields : ∀ (fields : List (String × Doc)) (rest : List Char),
    p :: ps <:+: lower (textFields fields ++ rest) ↔ Among p ps (stringsFields fields) ∨ p :: ps <:+: lower rest
  | [], rest => by simp [textFields, stringsFields, Among]
  | [(k, d)], rest => by
    have shape : textFields [(k, d)] ++ rest = quote k ++ ([':', ' '] ++ (d.text ++ rest)) := by simp [textFields]
    rw [shape, word.infix_quote, word.infix_marks (by decide), Word.infix_text d,
      stringsFields_cons, among_cons, among_append, stringsFields, or_assoc]
    simp [Among]
  | (k, d) :: f :: more, rest => by
    have shape : textFields ((k, d) :: f :: more) ++ rest =
        quote k ++ ([':', ' '] ++ (d.text ++ ([',', ' '] ++ (textFields (f :: more) ++ rest)))) := by
      simp [textFields]
    rw [shape, word.infix_quote, word.infix_marks (by decide), Word.infix_text d, word.infix_marks (by decide),
      Word.infix_textFields (f :: more), stringsFields_cons k d, among_cons, among_append, or_assoc, or_assoc]
end

/-- The word stands in the text exactly if it stands in one of the strings. -/
theorem Word.occurs_dumps {w : String} (same : w.toList = p :: ps) (d : Doc) :
    occurs w d.dumps = true ↔ ∃ s ∈ d.strings, occurs w s = true := by
  simp only [occurs, same, Doc.dumps, String.toList_ofList, decide_eq_true_eq]
  have found := word.infix_text d []
  rw [List.append_nil] at found
  exact found.trans (or_iff_left (fun h => absurd h (by simp [lower])))

end Word

def closesScript (text : String) : Bool := occurs "</script" text || occurs "<!--" text

theorem closesScript_dumps (d : Doc) : closesScript d.dumps = true ↔ ∃ s ∈ d.strings, closesScript s = true := by
  have tag : Word '<' "/script".toList := ⟨List.all_eq_true.mp (by decide), by decide⟩
  have comment : Word '<' "!--".toList := ⟨List.all_eq_true.mp (by decide), by decide⟩
  simp only [closesScript, Bool.or_eq_true, tag.occurs_dumps (by decide : "</script".toList = _),
    comment.occurs_dumps (by decide : "<!--".toList = _), and_or_left, exists_or]

theorem mem_stringsItems {s : String} {items : List Doc} :
    s ∈ stringsItems items ↔ ∃ d ∈ items, s ∈ d.strings := by
  induction items with
  | nil => simp [stringsItems]
  | cons d rest ih => simp [stringsItems, ih]

theorem mem_stringsFields {s : String} {fields : List (String × Doc)} :
    s ∈ stringsFields fields ↔ ∃ kv ∈ fields, s = kv.1 ∨ s ∈ kv.2.strings := by
  induction fields with
  | nil => simp [stringsFields]
  | cons kv rest ih =>
    obtain ⟨k, d⟩ := kv
    simp [stringsFields, ih, or_assoc]

theorem closesScript_str {s : String} : closesScript (Doc.str s).dumps = true ↔ closesScript s = true := by
  rw [closesScript_dumps]
  simp [Doc.strings]

theorem closesScript_arr {items : List Doc} :
    closesScript (Doc.arr items).dumps = true ↔ ∃ d ∈ items, closesScript d.dumps = true := by
  simp only [closesScript_dumps, Doc.strings, mem_stringsItems]
  constructor
  · rintro ⟨s, ⟨d, listed, inside⟩, closes⟩
    exact ⟨d, listed, s, inside, closes⟩
  · rintro ⟨d, listed, s, inside, closes⟩
    exact ⟨s, ⟨d, listed, inside⟩, closes⟩

theorem closesScript_obj {fields : List (String × Doc)} :
    closesScript (Doc.obj fields).dumps = true ↔
      ∃ kv ∈ fields, closesScript kv.1 = true ∨ closesScript kv.2.dumps = true := by
  simp only [closesScript_dumps, Doc.strings, mem_stringsFields]
  constructor
  · rintro ⟨s, ⟨kv, listed, rfl | inside⟩, closes⟩
    · exact ⟨kv, listed, .inl closes⟩
    · exact ⟨kv, listed, .inr ⟨s, inside, closes⟩⟩
  · rintro ⟨kv, listed, closes | ⟨s, inside, closes⟩⟩
    · exact ⟨kv.1, ⟨kv, listed, .inl rfl⟩, closes⟩
    · exact ⟨s, ⟨kv, listed, .inr inside⟩, closes⟩

theorem not_closesScript {s : String} (absent : '<' ∉ s.toList) : closesScript s = false := by
  have refuted : ∀ w : List Char, ¬ '<' :: w <:+: lower s.toList := by
    intro w found
    obtain ⟨c, member, same⟩ := List.mem_map.mp (found.subset List.mem_cons_self)
    have angle : c = '<' := by
      unfold Char.toLower at same
      split at same
      · next upper =>
        have low : 65 ≤ c.val.toNat := UInt32.le_iff_toNat_le.mp upper.1
        have high : c.val.toNat ≤ 90 := UInt32.le_iff_toNat_le.mp upper.2
        have code : (c.val + 32).toNat = 60 := congrArg Char.toNat same
        rw [UInt32.toNat_add] at code
        change (c.val.toNat + 32) % 4294967296 = 60 at code
        omega
      · exact same
    exact absent (angle ▸ member)
  simp only [closesScript, occurs, Bool.or_eq_false_iff, decide_eq_false_iff_not]
  exact ⟨refuted _, refuted _⟩

example : (Doc.obj [("a", .arr [.str "</ScRipt>", .str "é\n"])]).dumps =
    "\x7b\"a\": [\"</ScRipt>\", \"\\u00e9\\n\"]\x7d" := by decide

end JsonText
