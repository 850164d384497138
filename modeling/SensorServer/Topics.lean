import SensorServer.Text

/-! The topics that the services take, against the grammar of the protocol. -/
namespace SensorServer

/-- Alphanumeric, `-` or `_`, and at most 128 characters. -/
structure Identifier (s : String) : Prop where
  nonempty : 1 ≤ pyLen s
  short : pyLen s ≤ 128
  clean : ∀ c ∈ s.toList, identifierChar c = true

def Newlined (s : String) : Prop := ∃ name, s = name ++ "\n" ∧ Identifier name ∧ pyLen s ≤ 128

structure Segments (topic deviceType deviceId msgType : String) : Prop where
  joined : "/".intercalate [deviceType, deviceId, msgType] = topic
  slashes : topic.toList.count '/' = 2

structure TopicGrammar (topic deviceType deviceId msgType : String) : Prop
    extends Segments topic deviceType deviceId msgType where
  deviceType : Identifier deviceType
  deviceId : Identifier deviceId

theorem isSafeIdentifier_iff {s : String} :
    isSafeIdentifier s = true ↔ Identifier s ∨ Newlined s := by
  unfold isSafeIdentifier safeIdentifierRe
  rw [Bool.and_eq_true, decide_eq_true_eq, matchesClass_iff (by decide)]
  constructor
  · rintro ⟨⟨name, rfl | rfl, nonempty, -, clean⟩, short⟩
    · exact .inl ⟨nonempty, short, clean⟩
    · have front : pyLen name ≤ 128 := by
        simp only [pyLen, String.toList_append, List.length_append] at short ⊢
        omega
      exact .inr ⟨name, rfl, ⟨nonempty, front, clean⟩, short⟩
  · rintro (plain | ⟨name, rfl, plain, short⟩)
    · exact ⟨⟨s, .inl rfl, plain.nonempty, by simp, plain.clean⟩, plain.short⟩
    · exact ⟨⟨name, .inr rfl, plain.nonempty, by simp, plain.clean⟩, short⟩

theorem Newlined.not_identifier {s : String} (newlined : Newlined s) : ¬ Identifier s := by
  rintro ⟨-, -, clean⟩
  obtain ⟨name, rfl, -, -⟩ := newlined
  exact absurd (clean '\n' (by simp)) (by decide)

theorem count_slashes (deviceType deviceId msgType : String) :
    ("/".intercalate [deviceType, deviceId, msgType]).toList.count '/' =
      deviceType.toList.count '/' + deviceId.toList.count '/' + msgType.toList.count '/' + 2 := by
  simp only [String.toList_intercalate, List.map_cons, List.map_nil, List.intercalate_cons_cons,
    List.intercalate_singleton, List.count_append]
  have slash : "/".toList.count '/' = 1 := by decide
  omega

theorem segments_iff {topic deviceType deviceId msgType : String} :
    Segments topic deviceType deviceId msgType ↔ pySplit '/' topic = [deviceType, deviceId, msgType] := by
  have free : (∀ part ∈ [deviceType, deviceId, msgType], '/' ∉ part.toList) ↔
      ("/".intercalate [deviceType, deviceId, msgType]).toList.count '/' = 2 := by
    rw [count_slashes]
    simp only [List.forall_mem_cons, List.not_mem_nil, false_implies, implies_true, and_true,
      ← List.count_eq_zero]
    omega
  rw [pySplit_eq_iff, free]
  constructor
  · rintro ⟨rfl, slashes⟩
    exact ⟨by simp, rfl, slashes⟩
  · rintro ⟨-, rfl, slashes⟩
    exact ⟨rfl, slashes⟩

theorem parseTopic_eq_some {topic deviceType deviceId msgType : String} :
    parseTopic topic = some (deviceType, deviceId, msgType) ↔
      Segments topic deviceType deviceId msgType ∧
        (Identifier deviceType ∨ Newlined deviceType) ∧ (Identifier deviceId ∨ Newlined deviceId) := by
  rw [segments_iff, ← isSafeIdentifier_iff, ← isSafeIdentifier_iff]
  unfold parseTopic
  constructor
  · intro parsed
    split at parsed
    · next same =>
      split at parsed
      · cases parsed
      · next safe =>
        cases parsed
        simpa [same] using safe
    · cases parsed
  · rintro ⟨same, type, id⟩
    simp [same, type, id]

/-- A topic is parsed when it is in the grammar, into the segments that it joins. -/
structure ExactTopic (topic : String) : Prop where
  accepted : ∀ deviceType deviceId msgType,
    parseTopic topic = some (deviceType, deviceId, msgType) ↔ TopicGrammar topic deviceType deviceId msgType
  joined : ∀ deviceType deviceId msgType, parseTopic topic = some (deviceType, deviceId, msgType) →
    "/".intercalate [deviceType, deviceId, msgType] = topic
  clean : ∀ deviceType deviceId msgType, parseTopic topic = some (deviceType, deviceId, msgType) →
    ∀ c ∈ deviceType.toList ++ deviceId.toList, identifierChar c = true

/-- The type or the identifier of a topic ends in a newline and is an identifier but for that. -/
def Stray (topic : String) : Prop :=
  ∃ deviceType deviceId msgType, Segments topic deviceType deviceId msgType ∧
    (Identifier deviceType ∨ Newlined deviceType) ∧ (Identifier deviceId ∨ Newlined deviceId) ∧
    (Newlined deviceType ∨ Newlined deviceId)

theorem Stray.not_exact {topic : String} (stray : Stray topic) : ¬ ExactTopic topic := by
  obtain ⟨deviceType, deviceId, msgType, segments, type, id, newlined⟩ := stray
  intro holds
  have inside := (holds.accepted _ _ _).mp (parseTopic_eq_some.mpr ⟨segments, type, id⟩)
  rcases newlined with ends | ends
  · exact ends.not_identifier inside.deviceType
  · exact ends.not_identifier inside.deviceId

theorem exact_of_not_stray {topic : String} (plain : ¬ Stray topic) : ExactTopic topic := by
  have inside : ∀ deviceType deviceId msgType,
      parseTopic topic = some (deviceType, deviceId, msgType) →
        TopicGrammar topic deviceType deviceId msgType := by
    intro deviceType deviceId msgType parsed
    obtain ⟨segments, type, id⟩ := parseTopic_eq_some.mp parsed
    have ends : ¬ (Newlined deviceType ∨ Newlined deviceId) := fun newlined =>
      plain ⟨deviceType, deviceId, msgType, segments, type, id, newlined⟩
    rw [not_or] at ends
    exact ⟨segments, type.resolve_right ends.1, id.resolve_right ends.2⟩
  constructor
  · intro deviceType deviceId msgType
    refine ⟨inside deviceType deviceId msgType, fun grammar => ?_⟩
    exact parseTopic_eq_some.mpr ⟨grammar.toSegments, .inl grammar.deviceType, .inl grammar.deviceId⟩
  · intro deviceType deviceId msgType parsed
    exact (inside _ _ _ parsed).joined
  · intro deviceType deviceId msgType parsed c member
    have grammar := inside _ _ _ parsed
    rcases List.mem_append.mp member with type | id
    · exact grammar.deviceType.clean c type
    · exact grammar.deviceId.clean c id

theorem topic_exact_iff (topic : String) : ExactTopic topic ↔ ¬ Stray topic :=
  ⟨fun holds stray => stray.not_exact holds, exact_of_not_stray⟩

/-- An identifier with a newline at its end is the identifier of a device. -/
theorem newline_topic : parseTopic "thermo/living01\n/sensors" = some ("thermo", "living01\n", "sensors") ∧
    ¬ ExactTopic "thermo/living01\n/sensors" := by
  have parsed : parseTopic "thermo/living01\n/sensors" = some ("thermo", "living01\n", "sensors") := by decide
  refine ⟨parsed, fun holds => ?_⟩
  exact absurd (holds.clean _ _ _ parsed '\n' (by decide)) (by decide)

end SensorServer
