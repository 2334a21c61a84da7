import Mathlib.Data.List.Nodup
import MockBuilders.Emission.Plan

/-!
Which properties of an object get setters. Of the properties that ask for one setter name the first
gets it and the others are reported, so which ones do depends on the order of the properties only
where two of them ask for one name.
Main statements: `PropertyPlan.setter_mem_iff_iff_taken_mem_iff` and
`PropertyPlan.taken_not_mem_of_mem_iff`.
-/
namespace MockBuilders.PropertyPlan

variable {used ps qs : List String} {p q m : String}

/-- The setter name that a property asked for, whether or not it got it. -/
def method? : PropertyPlan → Option String
  | setter _ m | taken _ m => some m
  | bracketed _ | unnamed _ => none

/-- The first property gets no setter, and the others are planned as if it were not there; or it
gets the setter that it asks for, and the others find its name used. -/
theorem all_cons_cases (used : List String) (p : String) (ps : List String) :
    (∃ x, x.property = p ∧ x.method? = Naming.methodName? p ∧ x.setter? = none ∧
      (∀ m, x = taken p m → m ∈ used) ∧ all used (p :: ps) = x :: all used ps) ∨
    ∃ m, Naming.methodName? p = some m ∧ m ∉ used ∧
      all used (p :: ps) = setter p m :: all (used ++ [m]) ps := by
  rw [all]
  by_cases hexpressible : Naming.isExpressible p = true
  · rw [hexpressible]
    cases hm : Naming.methodName? p with
    | none => exact .inl ⟨unnamed p, rfl, rfl, rfl, nofun, rfl⟩
    | some m =>
      by_cases hused : m ∈ used
      · refine .inl ⟨taken p m, rfl, rfl, rfl, ?_, by simp [hused]⟩
        intro n hn
        cases hn
        exact hused
      · exact .inr ⟨m, rfl, hused, by simp [hused]⟩
  · have hnone : Naming.methodName? p = none := by simp [Naming.methodName?, hexpressible]
    exact .inl ⟨bracketed p, rfl, hnone.symm, rfl, nofun, by simp [hexpressible]⟩

theorem map_property_all (used ps : List String) : (all used ps).map property = ps := by
  induction ps generalizing used with
  | nil => rfl
  | cons p ps ih =>
    rcases all_cons_cases used p ps with ⟨x, rfl, -, -, -, h⟩ | ⟨m, -, -, h⟩
    · rw [h, List.map_cons, ih]
    · rw [h, List.map_cons, ih]
      rfl

theorem method?_of_mem {x : PropertyPlan} (hx : x ∈ all used ps) :
    x.method? = Naming.methodName? x.property := by
  induction ps generalizing used with
  | nil => cases hx
  | cons p ps ih =>
    rcases all_cons_cases used p ps with ⟨y, rfl, hy, -, -, h⟩ | ⟨m, hm, -, h⟩
    · rw [h] at hx
      rcases List.mem_cons.mp hx with rfl | hx
      · exact hy
      · exact ih hx
    · rw [h] at hx
      rcases List.mem_cons.mp hx with rfl | hx
      · exact hm.symm
      · exact ih hx

/-- A property that asks for a setter name gets it or is reported. -/
theorem setter_or_taken_mem (used : List String) (hp : p ∈ ps)
    (hm : Naming.methodName? p = some m) :
    setter p m ∈ all used ps ∨ taken p m ∈ all used ps := by
  rw [← map_property_all used ps] at hp
  obtain ⟨x, hx, rfl⟩ := List.mem_map.mp hp
  have hmethod := (method?_of_mem hx).trans hm
  cases x with
  | setter p n => exact .inl (Option.some.inj hmethod ▸ hx)
  | taken p n => exact .inr (Option.some.inj hmethod ▸ hx)
  | bracketed _ | unnamed _ => cases hmethod

/-- No property is planned twice. -/
theorem eq_of_property_eq (hps : ps.Nodup) {x y : PropertyPlan} (hx : x ∈ all used ps)
    (hy : y ∈ all used ps) (h : x.property = y.property) : x = y := by
  rw [← map_property_all used ps] at hps
  exact List.inj_on_of_nodup_map hps hx hy h

theorem setter_mem_iff (hps : ps.Nodup) : setter p m ∈ all used ps ↔
    p ∈ ps ∧ Naming.methodName? p = some m ∧ taken p m ∉ all used ps := by
  constructor
  · intro h
    have hp : p ∈ (all used ps).map property := List.mem_map.mpr ⟨_, h, rfl⟩
    rw [map_property_all] at hp
    refine ⟨hp, (method?_of_mem h).symm, fun htaken => ?_⟩
    cases eq_of_property_eq hps h htaken rfl
  · rintro ⟨hp, hm, htaken⟩
    exact (setter_or_taken_mem used hp hm).resolve_right htaken

theorem taken_mem_iff (hps : ps.Nodup) : taken p m ∈ all used ps ↔
    p ∈ ps ∧ Naming.methodName? p = some m ∧ setter p m ∉ all used ps := by
  constructor
  · intro h
    have hp : p ∈ (all used ps).map property := List.mem_map.mpr ⟨_, h, rfl⟩
    rw [map_property_all] at hp
    refine ⟨hp, (method?_of_mem h).symm, fun hsetter => ?_⟩
    cases eq_of_property_eq hps h hsetter rfl
  · rintro ⟨hp, hm, hsetter⟩
    exact (setter_or_taken_mem used hp hm).resolve_left hsetter

theorem not_mem_used_of_setter_mem (h : setter p m ∈ all used ps) : m ∉ used := by
  induction ps generalizing used with
  | nil => cases h
  | cons q ps ih =>
    rcases all_cons_cases used q ps with ⟨x, -, -, hx, -, he⟩ | ⟨n, -, hn, he⟩
    · rw [he] at h
      rcases List.mem_cons.mp h with rfl | h
      · cases hx
      · exact ih h
    · rw [he] at h
      rcases List.mem_cons.mp h with h | h
      · cases h
        exact hn
      · exact fun hm => ih h (List.mem_append_left _ hm)

/-- No setter name is given twice. -/
theorem property_eq_of_setter_mem (hp : setter p m ∈ all used ps) (hq : setter q m ∈ all used ps) :
    p = q := by
  induction ps generalizing used with
  | nil => cases hp
  | cons r ps ih =>
    rcases all_cons_cases used r ps with ⟨x, -, -, hx, -, he⟩ | ⟨n, -, -, he⟩
    · rw [he] at hp hq
      have later : ∀ {s}, setter s m ∈ x :: all used ps → setter s m ∈ all used ps := by
        intro s hs
        refine (List.mem_cons.mp hs).resolve_left ?_
        rintro rfl
        cases hx
      exact ih (later hp) (later hq)
    · rw [he] at hp hq
      -- once given, the name is used for all that follow
      have hgiven : ∀ {s}, setter s n ∉ all (used ++ [n]) ps := fun hs =>
        not_mem_used_of_setter_mem hs (List.mem_append_right _ (List.mem_singleton_self n))
      rcases List.mem_cons.mp hp with hfirst | hlater
      · cases hfirst
        rcases List.mem_cons.mp hq with hfirst' | hlater'
        · cases hfirst'
          rfl
        · exact (hgiven hlater').elim
      · rcases List.mem_cons.mp hq with hfirst' | hlater'
        · cases hfirst'
          exact (hgiven hlater).elim
        · exact ih hlater hlater'

/-- A property is reported only if the name was used before or another property has the setter. -/
theorem mem_used_or_setter_mem (h : taken p m ∈ all used ps) :
    m ∈ used ∨ ∃ q, setter q m ∈ all used ps := by
  induction ps generalizing used with
  | nil => cases h
  | cons r ps ih =>
    rcases all_cons_cases used r ps with ⟨x, hr, -, -, hx, he⟩ | ⟨n, -, -, he⟩
    · rw [he] at h ⊢
      rcases List.mem_cons.mp h with rfl | h
      · obtain rfl : p = r := hr
        exact .inl (hx m rfl)
      · exact (ih h).imp_right fun ⟨q, hq⟩ => ⟨q, List.mem_cons_of_mem _ hq⟩
    · rw [he] at h ⊢
      rcases ih ((List.mem_cons.mp h).resolve_left nofun) with hm | ⟨q, hq⟩
      · rcases List.mem_append.mp hm with hm | hm
        · exact .inl hm
        · obtain rfl := List.mem_singleton.mp hm
          exact .inr ⟨r, List.mem_cons_self⟩
      · exact .inr ⟨q, List.mem_cons_of_mem _ hq⟩

/-- Two orders of the same properties give the same setters if and only if they report the same
properties. -/
theorem setter_mem_iff_iff_taken_mem_iff (used : List String) (hps : ps.Nodup) (hqs : qs.Nodup)
    (hmem : ∀ p, p ∈ ps ↔ p ∈ qs) :
    (∀ p m, setter p m ∈ all used ps ↔ setter p m ∈ all used qs) ↔
      ∀ p m, taken p m ∈ all used ps ↔ taken p m ∈ all used qs := by
  constructor
  · intro h p m
    rw [taken_mem_iff hps, taken_mem_iff hqs, hmem, h]
  · intro h p m
    rw [setter_mem_iff hps, setter_mem_iff hqs, hmem, h]

/-- If one order of the properties reports none, no order does. -/
theorem taken_not_mem_of_mem_iff (hps : ps.Nodup) (hqs : qs.Nodup)
    (hmem : ∀ p, p ∈ ps ↔ p ∈ qs) (h : ∀ p m, taken p m ∉ all [] ps) (p m : String) :
    taken p m ∉ all [] qs := by
  intro htaken
  obtain ⟨hp, hm, hsetter⟩ := (taken_mem_iff hqs).mp htaken
  rcases mem_used_or_setter_mem htaken with hused | ⟨q, hq⟩
  · cases hused
  · obtain ⟨hq', hm', -⟩ := (setter_mem_iff hqs).mp hq
    have hp_setter := (setter_mem_iff hps).mpr ⟨(hmem p).mpr hp, hm, h p m⟩
    have hq_setter := (setter_mem_iff hps).mpr ⟨(hmem q).mpr hq', hm', h q m⟩
    exact hsetter (property_eq_of_setter_mem hp_setter hq_setter ▸ hq)

end MockBuilders.PropertyPlan
