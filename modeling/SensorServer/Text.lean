import Mathlib.Data.List.Basic

/-! The regular expressions and string operations of the services. -/
namespace SensorServer

/-- What an anchored class expression matches: `$` also matches before one final newline. -/
def lineBody (s : String) : List Char :=
  if s.toList.getLast? = some '\n' then s.toList.dropLast else s.toList

/-- `re.match` of `^[class]{low,high}$`; no class used here contains the newline. -/
def matchesClass (inClass : Char → Bool) (low : Nat) (high : Option Nat) (s : String) : Bool :=
  let body := lineBody s
  decide (low ≤ body.length) && high.all (fun n => decide (body.length ≤ n)) && body.all inClass

def identifierChar (c : Char) : Bool := c.isAlphanum || c == '_' || c == '-'
def versionChar (c : Char) : Bool := c.isAlphanum || c == '.' || c == '-' || c == '+'
def upperAlnum (c : Char) : Bool := c.isUpper || c.isDigit

def safeIdentifierRe (s : String) : Bool := matchesClass identifierChar 1 none s
def fwVersionRe (s : String) : Bool := matchesClass versionChar 1 none s
def hwCodeRe (s : String) : Bool := matchesClass upperAlnum 8 (some 8) s
def versionRe (s : String) : Bool := matchesClass versionChar 1 (some 32) s

def pyLen (s : String) : Nat := s.toList.length

def pyTake (n : Nat) (s : String) : String := String.ofList (s.toList.take n)
def pyDrop (n : Nat) (s : String) : String := String.ofList (s.toList.drop n)

def pyStartsWith (s start : String) : Bool := start.toList.isPrefixOf s.toList

def pySpace (c : Char) : Bool :=
  (9 ≤ c.toNat && c.toNat ≤ 13) || (28 ≤ c.toNat && c.toNat ≤ 32) || c.toNat == 0x85 ||
  c.toNat == 0xA0 || c.toNat == 0x1680 || (0x2000 ≤ c.toNat && c.toNat ≤ 0x200A) ||
  c.toNat == 0x2028 || c.toNat == 0x2029 || c.toNat == 0x202F || c.toNat == 0x205F ||
  c.toNat == 0x3000

def pyStrip (s : String) : String :=
  String.ofList (((s.toList.dropWhile pySpace).reverse.dropWhile pySpace).reverse)

def splitChars (separator : Char) : List Char → List (List Char)
  | [] => [[]]
  | c :: cs =>
    if c = separator then [] :: splitChars separator cs
    else match splitChars separator cs with
      | [] => [[c]]
      | part :: parts => (c :: part) :: parts

def pySplit (separator : Char) (s : String) : List String :=
  (splitChars separator s.toList).map String.ofList

def metricAliases : List (String × String) :=
  [("temp", "temperature"), ("humi", "humidity"), ("press", "pressure"), ("uv", "uv_index"),
   ("batv", "bat_voltage"), ("battery_v", "bat_voltage"), ("bat", "bat_percent"),
   ("battery_pct", "bat_percent"), ("light_lux", "lux"), ("wifi_rssi", "rssi")]

def resolveAlias (raw : String) : String := (metricAliases.lookup raw).getD raw

def maxPayloadSize : Nat := 10240
def maxMetricNameLen : Nat := 64

def isSafeIdentifier (value : String) : Bool := safeIdentifierRe value && decide (pyLen value ≤ 128)

def parseTopic (topic : String) : Option (String × String × String) :=
  match pySplit '/' topic with
  | [deviceType, deviceId, msgType] =>
    if !isSafeIdentifier deviceType || !isSafeIdentifier deviceId then none
    else some (deviceType, deviceId, msgType)
  | _ => none

example : parseTopic "thermo/living01/sensors" = some ("thermo", "living01", "sensors") := by decide
example : parseTopic "thermo/+/sensors" = none := by decide

theorem lineBody_concat (name : String) : lineBody (name ++ "\n") = name.toList := by
  simp [lineBody]

theorem lineBody_cases (s : String) :
    lineBody s = s.toList ∨ ∃ name, s = name ++ "\n" ∧ lineBody s = name.toList := by
  unfold lineBody
  split
  · next ends =>
    right
    refine ⟨String.ofList s.toList.dropLast, ?_, by simp⟩
    apply String.toList_injective
    simpa using (List.dropLast_append_getLast? '\n' ends).symm
  · exact .inl rfl

theorem lineBody_eq_self {s : String} (absent : '\n' ∉ s.toList) : lineBody s = s.toList := by
  rcases lineBody_cases s with whole | ⟨name, rfl, -⟩
  · exact whole
  · exact absurd (by simp) absent

theorem not_mem_of_matchesClass {inClass : Char → Bool} {low : Nat} {high : Option Nat} {s : String}
    (accepted : matchesClass inClass low high s = true) {c : Char} (excludes : inClass c = false)
    (other : c ≠ '\n') : c ∉ s.toList := by
  intro member
  have inside : c ∈ lineBody s := by
    rcases lineBody_cases s with whole | ⟨name, same, body⟩
    · rw [whole]
      exact member
    · rw [same, String.toList_append, List.mem_append] at member
      rw [body]
      exact member.resolve_right (by simpa using other)
  simp only [matchesClass, Bool.and_eq_true, List.all_eq_true] at accepted
  have allowed := accepted.2 c inside
  rw [excludes] at allowed
  cases allowed

/-- The language of such an expression: a word of the class, with or without a final newline. -/
theorem matchesClass_iff {inClass : Char → Bool} (excludes : inClass '\n' = false) {low : Nat}
    {high : Option Nat} {s : String} : matchesClass inClass low high s = true ↔
      ∃ name, (s = name ∨ s = name ++ "\n") ∧ low ≤ pyLen name ∧ (∀ n ∈ high, pyLen name ≤ n) ∧
        ∀ c ∈ name.toList, inClass c = true := by
  have accepts : matchesClass inClass low high s = true ↔ low ≤ (lineBody s).length ∧
      (∀ n ∈ high, (lineBody s).length ≤ n) ∧ ∀ c ∈ lineBody s, inClass c = true := by
    cases high <;> simp [matchesClass, and_assoc]
  rw [accepts]
  constructor
  · intro body
    rcases lineBody_cases s with whole | ⟨name, same, named⟩
    · rw [whole] at body
      exact ⟨s, .inl rfl, body⟩
    · rw [named] at body
      exact ⟨name, .inr same, body⟩
  · rintro ⟨name, rfl | rfl, bounds⟩
    · have absent : '\n' ∉ s.toList := fun member => by
        have final := bounds.2.2 '\n' member
        rw [excludes] at final
        cases final
      rw [lineBody_eq_self absent]
      exact bounds
    · rw [lineBody_concat]
      exact bounds

theorem splitChars_eq_splitOn (separator : Char) (cs : List Char) :
    splitChars separator cs = cs.splitOn separator := by
  induction cs with
  | nil => rfl
  | cons c cs ih =>
    rw [List.splitOn_cons_eq_if_modifyHead, ← ih, splitChars]
    by_cases same : c = separator
    · simp [same]
    · simp only [same, if_false, beq_iff_eq]
      cases rest : splitChars separator cs with
      | nil =>
        rw [ih] at rest
        exact absurd rest (List.splitOn_ne_nil separator cs)
      | cons part parts => simp

theorem not_mem_of_mem_splitChars {separator : Char} {cs part : List Char}
    (member : part ∈ splitChars separator cs) : separator ∉ part := by
  induction cs generalizing part with
  | nil =>
    simp only [splitChars, List.mem_singleton] at member
    simp [member]
  | cons c cs ih =>
    unfold splitChars at member
    split at member
    · rcases List.mem_cons.mp member with rfl | later
      · simp
      · exact ih later
    · next other =>
      split at member
      · simp only [List.mem_singleton] at member
        simp [member, Ne.symm other]
      · next part' parts rest =>
        rcases List.mem_cons.mp member with rfl | later
        · have tail := ih (rest ▸ List.mem_cons_self)
          simp [Ne.symm other, tail]
        · exact ih (rest ▸ List.mem_cons_of_mem _ later)

/-- Splitting finds the one way to write a string as parts without the separator. -/
theorem pySplit_eq_iff {separator : Char} {s : String} {parts : List String} :
    pySplit separator s = parts ↔ parts ≠ [] ∧ (String.singleton separator).intercalate parts = s ∧
      ∀ part ∈ parts, separator ∉ part.toList := by
  unfold pySplit
  constructor
  · rintro rfl
    refine ⟨?_, ?_, ?_⟩
    · simp [splitChars_eq_splitOn]
    · apply String.toList_injective
      rw [String.toList_intercalate, List.map_map]
      simp [Function.comp_def, splitChars_eq_splitOn]
    · intro part listed
      obtain ⟨chars, member, rfl⟩ := List.mem_map.mp listed
      rw [String.toList_ofList]
      exact not_mem_of_mem_splitChars member
  · rintro ⟨nonempty, rfl, free⟩
    rw [splitChars_eq_splitOn, String.toList_intercalate, String.toList_singleton,
      List.splitOn_intercalate]
    · simp [List.map_map, Function.comp_def]
    · simpa using free
    · simpa using nonempty

end SensorServer
