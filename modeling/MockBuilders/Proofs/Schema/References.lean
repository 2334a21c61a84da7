import MockBuilders.Proofs.Schema.Unfollowed

/-!
The references of a document, through the keywords that bear schemas: each of them is a reference of
the schema that is read, or reported as one that is not followed. Lost are only those under names
that data has, too, in maps of schemas that are kept aside, and those in items of an enumeration
that are no list of records.
Main statements: `Schema.mem_references_or_unfollowed` and `Schema.disguised_lost`.
-/
namespace MockBuilders

namespace Json

/-- A value that a keyword of an object holds as a schema. -/
inductive Child (m : Members Json) : String → Json → Prop
  | named {keyword name : String} {held : Members Json} {w : Json} : keyword ∈ mapKeywords →
      m.get? keyword = some (.object held) → held.get? name = some w → Child m keyword w
  | single {keyword : String} {w : Json} : keyword ∈ singleKeywords →
      m.get? keyword = some w → Child m keyword w
  | listed {keyword : String} {held : List Json} {w : Json} : keyword ∈ listKeywords →
      m.get? keyword = some (.array held) → w ∈ held → Child m keyword w

/-- A value that is reached through keywords that bear schemas. -/
inductive Below : Json → Json → Prop
  | self (v : Json) : Below v v
  | child {m : Members Json} {keyword : String} {v w : Json} : Child m keyword v → Below v w →
      Below (.object m) w

/-- A reference stands in a value or below it. -/
def Refers (v : Json) (pointer : String) : Prop :=
  ∃ m, v.Below (.object m) ∧ Outline.textAt m "$ref" = some pointer

/-- A schema that a map of the object holds under a name that data has, too. -/
inductive Disguised (m : Members Json) (w : Json) : Prop
  | intro {keyword name : String} {held : Members Json} : keyword ∈ mapKeywords →
      m.get? keyword = some (.object held) → held.get? name = some w → isData name = true →
      Disguised m w

variable {m e : Members Json} {keyword pointer : String} {v w : Json}

theorem Child.keyword_mem (h : Child m keyword w) : keyword ∈ schemaKeywords := by
  cases h with
  | named hkeyword _ _ => exact List.mem_append_left _ (List.mem_append_left _ hkeyword)
  | single hkeyword _ => exact List.mem_append_left _ (List.mem_append_right _ hkeyword)
  | listed hkeyword _ _ => exact List.mem_append_right _ hkeyword

theorem Child.exists_named (h : Child m "properties" w) : ∃ name held,
    m.get? "properties" = some (.object held) ∧ Members.get? held name = some w := by
  cases h with
  | named _ hheld hname => exact ⟨_, _, hheld, hname⟩
  | single hkeyword _ | listed hkeyword _ _ => exact absurd hkeyword (by decide)

theorem Child.get?_additional (h : Child m "additionalProperties" w) :
    m.get? "additionalProperties" = some w := by
  cases h with
  | single _ hget => exact hget
  | named hkeyword _ _ | listed hkeyword _ _ => exact absurd hkeyword (by decide)

theorem Child.items_cases (h : Child m "items" w) : m.get? "items" = some w ∨
    ∃ held, m.get? "items" = some (.array held) ∧ w ∈ held := by
  cases h with
  | named hkeyword _ _ => exact absurd hkeyword (by decide)
  | single _ hget => exact .inl hget
  | listed _ hheld hw => exact .inr ⟨_, hheld, hw⟩

theorem Child.exists_listed (h : Child m keyword w) (hmap : keyword ∉ mapKeywords)
    (hsingle : keyword ∉ singleKeywords) :
    ∃ held, m.get? keyword = some (.array held) ∧ w ∈ held := by
  cases h with
  | named hkeyword _ _ => exact (hmap hkeyword).elim
  | single hkeyword _ => exact (hsingle hkeyword).elim
  | listed _ hheld hw => exact ⟨_, hheld, hw⟩

theorem Child.mem_keys (h : Child m keyword w) : keyword ∈ m.keys := by
  cases h with
  | named _ hget _ | single _ hget | listed _ hget _ => exact Members.mem_keys_of_get? hget

theorem Child.congr (h : Child m keyword w) (hget : e.get? keyword = m.get? keyword) :
    Child e keyword w := by
  cases h with
  | named hkeyword hheld hname => exact .named hkeyword (hget.trans hheld) hname
  | single hkeyword hw => exact .single hkeyword (hget.trans hw)
  | listed hkeyword hheld hw => exact .listed hkeyword (hget.trans hheld) hw

theorem Below.refers (h : v.Below w) (hw : w.Refers pointer) : v.Refers pointer := by
  induction h with
  | self _ => exact hw
  | child hc _ ih =>
    obtain ⟨m, hm, hpointer⟩ := ih hw
    exact ⟨m, .child hc hm, hpointer⟩

theorem Refers.isObject (h : v.Refers pointer) : v.isObject = true := by
  obtain ⟨m, hm, -⟩ := h
  cases hm <;> rfl

theorem mem_pointersItems {items : List Json} (hv : v ∈ items) (h : pointer ∈ v.pointers) :
    pointer ∈ pointersItems items := by
  induction items with
  | nil => cases hv
  | cons item items ih =>
    rw [pointersItems, List.mem_append]
    rcases List.mem_cons.mp hv with rfl | hv
    · exact .inl h
    · exact .inr (ih hv)

theorem mem_pointersMembers {key : String} (hv : (key, v) ∈ m) (hkey : isData key = false)
    (h : pointer ∈ v.pointers) : pointer ∈ pointersMembers m := by
  induction m with
  | nil => cases hv
  | cons p m ih =>
    obtain ⟨name, value⟩ := p
    rw [pointersMembers, List.mem_append]
    rcases List.mem_cons.mp hv with hv | hv
    · obtain ⟨rfl, rfl⟩ := Prod.ext_iff.mp hv
      exact .inl (by rwa [hkey])
    · exact .inr (ih hv)

/-- What is found below a child is found under its keyword, unless the name of the child hides
it. -/
theorem Child.exists_pointers (hc : Child m keyword w) (h : pointer ∈ w.pointers)
    (hname : ¬ Disguised m w) :
    ∃ value, m.get? keyword = some value ∧ pointer ∈ value.pointers := by
  cases hc with
  | named hkeyword hheld hget =>
    refine ⟨_, hheld, ?_⟩
    rw [pointers, List.mem_append]
    refine .inr (mem_pointersMembers (Members.mem_of_get? hget) ?_ h)
    exact Bool.eq_false_iff.mpr fun hdata => hname ⟨hkeyword, hheld, hget, hdata⟩
  | single _ hget => exact ⟨w, hget, h⟩
  | listed _ hheld hw => exact ⟨_, hheld, by rw [pointers]; exact mem_pointersItems hw h⟩

/-- A search through the whole value finds each reference that no name hides. -/
theorem mem_pointers_of_refers
    (hnames : ∀ n, v.Below (.object n) → ∀ w, Disguised n w → ¬ w.Refers pointer)
    (h : v.Refers pointer) : pointer ∈ v.pointers := by
  obtain ⟨n, hn, hpointer⟩ := h
  generalize hobject : Json.object n = target at hn
  induction hn with
  | self _ =>
    subst hobject
    rw [pointers, List.mem_append]
    exact .inl (Option.mem_toList.mpr hpointer)
  | @child m keyword x w hc hbelow ih =>
    subst hobject
    have hx := ih (fun n hn => hnames n (.child hc hn)) rfl
    have hdisguised : ¬ Disguised m x := fun hd =>
      hnames m (.self _) x hd ⟨n, hbelow, hpointer⟩
    obtain ⟨value, hvalue, hmem⟩ := hc.exists_pointers hx hdisguised
    rw [pointers, List.mem_append]
    exact .inr (mem_pointersMembers (Members.mem_of_get? hvalue)
      (Schema.isData_of_schemaKeyword keyword hc.keyword_mem) hmem)

end Json

theorem ChoiceKeyword.name_keywords (k : ChoiceKeyword) : k.name ∈ Json.listKeywords ∧
    k.name ∉ Json.mapKeywords ∧ k.name ∉ Json.singleKeywords := by
  cases k <;> decide

namespace Outline

open Json (Child)

variable {m : Members Json} {o : Outline} {keyword : String} {w : Json}

theorem exists_mem_parts {items : List Json} (hw : w ∈ items) (keyword : String) :
    ∃ p ∈ parts keyword items, p.value.Below w := by
  rw [← map_value_parts keyword items] at hw
  obtain ⟨p, hp, rfl⟩ := List.mem_map.mp hw
  exact ⟨p, hp, .self _⟩

theorem exists_part_of_listed_items (ho : ofMembers m = .ok o) (hpointer : textAt m "$ref" = none)
    (h : textAt m "type" = some "enum" ∨ listAt m "enum" = none) {held : List Json}
    (hheld : m.get? "items" = some (.array held)) (hw : w ∈ held) :
    ∃ p ∈ o.kind.children, p.value.Below w := by
  have hparts := exists_mem_parts hw "items"
  have hlist : listAt m "items" = some held := by rw [listAt, hheld]; rfl
  cases rule_of_ofMembers ho with
  | reference hsome => rw [hpointer] at hsome; cases hsome
  | variants _ _ =>
    rw [ofVariants, hlist]
    exact hparts
  | enumeration _ htype hvalues => rw [hvalues] at h; simp [htype] at h
  | array _ _ =>
    rw [ofArray, hheld]
    dsimp only
    split <;> exact hparts
  | itemList _ hsame _ =>
    obtain rfl := Option.some.inj (hlist.symm.trans hsame)
    unfold ofItemList
    dsimp only
    split <;> exact hparts
  | shaped hno _ =>
    rw [hno.items] at hheld
    cases hheld

/-- Items are read, unless an enumeration takes them that are no list. -/
theorem exists_part_of_items (ho : ofMembers m = .ok o) (hpointer : textAt m "$ref" = none)
    (h : textAt m "type" = some "enum" ∨ listAt m "enum" = none) (hc : Child m "items" w)
    (hw : w.isObject = true) : (∃ p ∈ o.kind.children, p.value.Below w) ∨
      textAt m "$ref" = none ∧ textAt m "type" = some "enum" ∧ m.get? "items" = some w := by
  obtain hget | ⟨held, hheld, hmem⟩ := hc.items_cases
  · cases w with
    | object n =>
      cases rule_of_ofMembers ho with
      | reference hsome => rw [hpointer] at hsome; cases hsome
      | variants _ htype => exact .inr ⟨hpointer, htype, hget⟩
      | enumeration _ htype hvalues => rw [hvalues] at h; simp [htype] at h
      | array _ _ =>
        refine .inl ⟨⟨"/items", .object n⟩, ?_, .self _⟩
        rw [ofArray, hget]
        exact List.mem_singleton_self _
      | itemList _ hlist _ =>
        rw [listAt, hget] at hlist
        cases hlist
      | shaped hno _ =>
        rw [hno.items] at hget
        cases hget
    | _ => cases hw
  · exact .inl (exists_part_of_listed_items ho hpointer h hheld hmem)

section Own

theorem mem_ownObject (h : m.has "properties" = true) :
    ⟨"", .object (m.filter isOwn)⟩ ∈ ownObject m := by
  rw [ownObject, if_pos h]
  exact List.mem_singleton_self _

theorem mem_ownChoice {c : ChoiceKeyword × List Json} (h : choice? m = some c) :
    ⟨"", .object [(c.1.name, .array c.2)]⟩ ∈ ownChoice m := by
  rw [ownChoice, h]
  exact List.mem_singleton_self _

/-- What belongs to properties beside a composition is read as a schema of its own. -/
theorem below_own (hm : m.Distinct) (hc : Child m keyword w)
    (hown : ∀ value, m.get? keyword = some value → isOwn (keyword, value) = true) :
    (Json.object (m.filter isOwn)).Below w := by
  refine .child (hc.congr ?_) (.self w)
  rw [Members.get?_filter hm]
  cases hget : m.get? keyword with
  | none => rfl
  | some value => rw [Option.filter_some, if_pos (hown value hget)]

end Own

theorem exists_part_of_properties (hm : m.Distinct) (ho : ShapeRule m o)
    (hc : Child m "properties" w) : ∃ p ∈ o.kind.children, p.value.Below w := by
  have hbelow : (Json.object (m.filter isOwn)).Below w := below_own hm hc fun _ _ => rfl
  obtain ⟨name, held, hheld, hname⟩ := hc.exists_named
  have hhas : m.has "properties" = true := by rw [Members.has, hheld]; rfl
  cases ho with
  | allOf _ =>
    exact ⟨_, List.mem_append_left _ (List.mem_append_left _ (mem_ownObject hhas)), hbelow⟩
  | own _ _ _ => exact ⟨_, List.mem_append_left _ (mem_ownObject hhas), hbelow⟩
  | choice _ _ hnone | leaf _ _ _ hnone => rw [hhas] at hnone; cases hnone
  | object _ _ _ hshape =>
    rw [shape, hheld] at hshape
    obtain rfl := Except.ok.inj hshape
    refine ⟨⟨"/properties/" ++ name, w⟩, List.mem_append_left _ ?_, .self w⟩
    rw [List.map_map]
    exact List.mem_map.mpr ⟨(name, w), Members.mem_of_get? hname, rfl⟩

theorem exists_part_of_additional (hm : m.Distinct) (ho : ShapeRule m o)
    (hobject : m.has "properties" = true ∨
      listAt m "allOf" = none ∧ choice? m = none ∧ hasType m "object" = true)
    (hc : Child m "additionalProperties" w) (hw : w.isObject = true) :
    ∃ p ∈ o.kind.children, p.value.Below w := by
  have hget := hc.get?_additional
  have hbelow : (Json.object (m.filter isOwn)).Below w := by
    refine below_own hm hc fun value hvalue => ?_
    obtain rfl := Option.some.inj (hget.symm.trans hvalue)
    exact hw
  cases ho with
  | allOf hbranches =>
    have hown := hobject.resolve_right fun h => by rw [hbranches] at h; cases h.1
    exact ⟨_, List.mem_append_left _ (List.mem_append_left _ (mem_ownObject hown)), hbelow⟩
  | own _ _ hown => exact ⟨_, List.mem_append_left _ (mem_ownObject hown), hbelow⟩
  | choice _ hchoice hnone => simp [hchoice, hnone] at hobject
  | leaf _ _ htype hnone => simp [htype, hnone] at hobject
  | object _ _ _ hshape =>
    cases w with
    | object n =>
      have hadditional : additionalAt m = some ⟨"/additionalProperties", .object n⟩ := by
        rw [additionalAt, hget]
      refine ⟨⟨"/additionalProperties", .object n⟩, List.mem_append_right _ ?_, .self _⟩
      rw [additional_of_shape hshape]
      exact Option.mem_toList.mpr hadditional
    | _ => cases hw

theorem exists_part_of_allOf (ho : ShapeRule m o) (hsome : (listAt m "allOf").isSome = true)
    (hc : Child m "allOf" w) : ∃ p ∈ o.kind.children, p.value.Below w := by
  obtain ⟨held, hheld, hw⟩ := hc.exists_listed (by decide) (by decide)
  cases ho with
  | allOf hbranches =>
    rw [listAt, hheld] at hbranches
    obtain rfl := Option.some.inj hbranches
    obtain ⟨p, hp, hbelow⟩ := exists_mem_parts hw "allOf"
    exact ⟨p, List.mem_append_left _ (List.mem_append_right _ hp), hbelow⟩
  | own hnone _ _ | choice hnone _ _ | object hnone _ _ _ | leaf hnone _ _ _ =>
    rw [hnone] at hsome
    cases hsome

theorem exists_part_of_choice (ho : ShapeRule m o) {c : ChoiceKeyword × List Json}
    (hchoice : choice? m = some c) (hc : Child m c.1.name w) :
    ∃ p ∈ o.kind.children, p.value.Below w := by
  obtain ⟨alternatives, branches⟩ := c
  obtain ⟨hlist, hmap, hsingle⟩ := alternatives.name_keywords
  obtain ⟨held, hheld, hw⟩ := hc.exists_listed hmap hsingle
  obtain rfl : branches = held :=
    Json.array.inj (Option.some.inj ((get?_of_choice? hchoice).symm.trans hheld))
  have hbelow : (Json.object [(alternatives.name, .array branches)]).Below w := by
    refine .child (.listed hlist ?_ hw) (.self w)
    rw [Members.get?, if_pos rfl]
  cases ho with
  | allOf _ => exact ⟨_, List.mem_append_right _ (mem_ownChoice hchoice), hbelow⟩
  | own _ _ _ => exact ⟨_, List.mem_append_right _ (mem_ownChoice hchoice), hbelow⟩
  | choice _ hsame _ =>
    obtain ⟨rfl, rfl⟩ := Prod.ext_iff.mp (Option.some.inj (hchoice.symm.trans hsame))
    exact exists_mem_parts hw _
  | object _ hnone _ _ | leaf _ hnone _ _ =>
    rw [hnone] at hchoice
    cases hchoice

/-- What a followed keyword holds is read, but for items that an enumeration drops. -/
theorem exists_part_of_follows (hm : m.Distinct) (ho : ofMembers m = .ok o)
    (h : Follows m keyword) (hc : Child m keyword w) (hw : w.isObject = true) :
    (∃ p ∈ o.kind.children, p.value.Below w) ∨
      textAt m "$ref" = none ∧ textAt m "type" = some "enum" ∧ m.get? "items" = some w := by
  cases h with
  | items hpointer henum => exact exists_part_of_items ho hpointer henum hc hw
  | properties hno => exact .inl (exists_part_of_properties hm (shapeRule_of_ofMembers hno ho) hc)
  | additional hno _ hobject =>
    exact .inl (exists_part_of_additional hm (shapeRule_of_ofMembers hno ho) hobject hc hw)
  | allOf hno hsome =>
    exact .inl (exists_part_of_allOf (shapeRule_of_ofMembers hno ho) hsome hc)
  | choice hno hchoice =>
    exact .inl (exists_part_of_choice (shapeRule_of_ofMembers hno ho) hchoice hc)

end Outline

namespace Schema

variable {s : Schema} {v : Json} {p : String}

/-- A reference of a value is not dropped with the items of an enumeration, and no name hides it
where it is kept aside. -/
structure Shows (v : Json) (p : String) : Prop where
  items : ∀ m n : Members Json, v.Reads (.object m) → Outline.textAt m "$ref" = none →
    Outline.textAt m "type" = some "enum" → m.get? "items" = some (.object n) →
      ¬ (Json.object n).Refers p
  names : ∀ (m : Members Json) o, v.Reads (.object m) → Outline.ofMembers m = .ok o →
    ∀ n, (Json.object o.extensions).Below (.object n) → ∀ w, Json.Disguised n w → ¬ w.Refers p

theorem Shows.part {m : Members Json} {o : Outline} (h : Shows (.object m) p)
    (ho : Outline.ofMembers m = .ok o) {q : Part} (hq : q ∈ o.kind.children) : Shows q.value p where
  items := fun n n' hn => h.items n n' (.part ho hq hn)
  names := fun n o' hn => h.names n o' (.part ho hq hn)

/-- Where a reference of an object goes: it is that of the layer, it is found in a part, or it is
reported. -/
theorem refers_cases {m : Members Json} {o : Outline} (hm : m.Distinct)
    (ho : Outline.ofMembers m = .ok o) (hp : (Json.object m).Refers p)
    (hshown : Shows (.object m) p) :
    o.kind.pointer? = some p ∨ (∃ q ∈ o.kind.children, q.value.Refers p) ∨
      ∃ u ∈ unfollowedIn o.extensions, u.pointer = p := by
  have hnames := hshown.names m o (.self _) ho
  obtain ⟨n, hn, hpointer⟩ := hp
  cases hn with
  | self _ => exact .inl ((Outline.pointer?_of_ofMembers ho).trans hpointer)
  | @child _ keyword w _ hc hbelow =>
    have hw : w.Refers p := ⟨n, hbelow, hpointer⟩
    -- a keyword that is followed leads into a part, any other is kept as it was found
    by_cases hfollows : Outline.Follows m keyword
    · obtain ⟨q, hq, hwq⟩ | ⟨hnone, htype, hget⟩ :=
        Outline.exists_part_of_follows hm ho hfollows hc hw.isObject
      · exact .inr (.inl ⟨q, hq, hwq.refers hw⟩)
      · cases w with
        | object n => exact (hshown.items m n (.self _) hnone htype hget hw).elim
        | _ => cases hw.isObject
    · have hkept := hc.congr (Outline.get?_of_not_follows hm ho hc.keyword_mem hfollows)
      have hfound := Json.mem_pointers_of_refers
        (fun n hn => hnames n (.child hkept hn)) hw
      obtain ⟨value, hvalue, hmem⟩ := hkept.exists_pointers hfound
        fun hd => hnames _ (.self _) w hd hw
      refine .inr (.inr ⟨⟨keyword, p⟩, mem_unfollowedIn_iff.mpr ⟨?_, value, ?_, hmem⟩, rfl⟩)
      · exact isData_of_schemaKeyword keyword hc.keyword_mem
      · exact Members.mem_of_get? hvalue

theorem exists_contains_of_refers {pointer : String} (hv : v.WellFormed)
    (h : read pointer v = .ok s) (hp : v.Refers p) (hshown : Shows v p) :
    ∃ t, s.Contains t ∧
      (t.kind.pointer? = some p ∨ ∃ u ∈ unfollowedIn t.extensions, u.pointer = p) := by
  induction s using Schema.induct generalizing v pointer with
  | h kind e ih =>
    have hobject := hp.isObject
    cases v with
    | object m =>
      obtain ⟨o, k, ho, hk, hs⟩ := read_object_eq_ok_iff.mp h
      cases hs
      have hm := (Json.wellFormed_object_iff.mp hv).1
      obtain hpointer | ⟨q, hq, hqp⟩ | hu := refers_cases hm ho hp hshown
      · exact ⟨_, .self _, .inl (hk.pointer?_eq.symm.trans hpointer)⟩
      · obtain ⟨c, hc, hread⟩ := exists_right_of_mem hk.children hq
        obtain ⟨t, ht, hfound⟩ :=
          ih c hc (Json.wellFormed_part hv ho hq) hread hqp (hshown.part ho hq)
        exact ⟨t, .child hc ht, hfound⟩
      · exact ⟨_, .self _, .inr hu⟩
    | _ => cases hobject

/-- Each reference that is reached through keywords that bear schemas is a reference of what is
read or reported as not followed, unless a name hides it where it is kept aside, or it stands in
items of an enumeration that are no list. -/
theorem mem_references_or_unfollowed (hv : v.WellFormed) (h : ofJson v = .ok s)
    (hp : v.Refers p) (hshown : Shows v p) :
    p ∈ s.references ∨ ∃ u ∈ s.unfollowed, u.pointer = p := by
  obtain ⟨t, ht, hpointer | ⟨u, hu, rfl⟩⟩ := exists_contains_of_refers hv h hp hshown
  · exact .inl (mem_references_iff.mpr ⟨t, ht, hpointer⟩)
  · exact .inr ⟨u, mem_unfollowed_iff.mpr ⟨t, ht, hu⟩, rfl⟩

section Glossary

def glossaryPatterns : Members Json :=
  [("patternProperties", .object [("^x-", .object [("$ref", .string "#/x/Note")])])]

/-- Listed properties, and others whose names match a pattern. -/
def glossary : Members Json :=
  ("properties", .object [("term", .object [("$ref", .string "#/x/Term")])]) :: glossaryPatterns

def glossarySchema : Schema :=
  mk (.object ⟨[("term", ofPointer "#/x/Term")], [], none⟩) glossaryPatterns

theorem not_child_reference (held : Json) {keyword : String} {w : Json} :
    ¬ Json.Child [("$ref", held)] keyword w := fun hc => by
  obtain rfl := List.mem_singleton.mp hc.mem_keys
  exact absurd hc.keyword_mem (show "$ref" ∉ Json.schemaKeywords by decide)

theorem child_glossaryPatterns {keyword : String} {w : Json}
    (hc : Json.Child glossaryPatterns keyword w) : w = .object [("$ref", .string "#/x/Note")] := by
  obtain rfl := List.mem_singleton.mp hc.mem_keys
  cases hc with
  | named _ hheld hname =>
    obtain rfl := Json.object.inj (Option.some.inj hheld)
    exact (Prod.ext_iff.mp (List.mem_singleton.mp (Members.mem_of_get? hname))).2
  | single hkeyword _ | listed hkeyword _ _ => exact absurd hkeyword (by decide)

/-- No name hides anything among the patterns. -/
theorem not_disguised_glossaryPatterns {n : Members Json} {w : Json}
    (hn : (Json.object glossaryPatterns).Below (.object n)) : ¬ Json.Disguised n w := by
  rintro ⟨hkeyword, hheld, hname, hdata⟩
  cases hn with
  | self _ =>
    obtain rfl := List.mem_singleton.mp (Json.Child.named hkeyword hheld hname).mem_keys
    obtain rfl := Json.object.inj (Option.some.inj hheld)
    obtain ⟨rfl, -⟩ := Prod.ext_iff.mp (List.mem_singleton.mp (Members.mem_of_get? hname))
    exact absurd hdata (by decide)
  | child hc hn =>
    obtain rfl := child_glossaryPatterns hc
    cases hn with
    | self _ => exact not_child_reference _ (.named hkeyword hheld hname)
    | child hc _ => exact not_child_reference _ hc

theorem not_disguised_nil {n : Members Json} {w : Json} (hn : (Json.object []).Below (.object n)) :
    ¬ Json.Disguised n w := by
  rintro ⟨hkeyword, hheld, hname, -⟩
  cases hn with
  | self _ => cases hheld
  | child hc _ => cases hc.mem_keys

theorem shows_glossary (p : String) : Shows (.object glossary) p := by
  have houtline : Outline.ofMembers glossary = .ok ⟨.object
    ⟨[("term", ⟨"/properties/term", .object [("$ref", .string "#/x/Term")]⟩)], [], none⟩,
    glossaryPatterns⟩ := rfl
  have hterm : Outline.ofMembers [("$ref", .string "#/x/Term")] =
    .ok ⟨.reference "#/x/Term", []⟩ := rfl
  have htypes : ∀ m, (Json.object glossary).Reads (.object m) →
      Outline.textAt m "type" ≠ some "enum" := by
    simp only [Json.forall_reads_object_iff houtline, Json.forall_reads_object_iff hterm,
      Kind.children, ObjectShape.children, List.map_cons, List.map_nil, Option.toList_none,
      List.append_nil, List.forall_mem_cons, List.not_mem_nil, false_implies, implies_true,
      and_true]
    exact ⟨by decide, by decide⟩
  have hnames : ∀ m, (Json.object glossary).Reads (.object m) →
      ∀ o, Outline.ofMembers m = .ok o → ∀ n, (Json.object o.extensions).Below (.object n) →
        ∀ w, ¬ Json.Disguised n w := by
    simp only [Json.forall_reads_object_iff houtline, Json.forall_reads_object_iff hterm,
      houtline, hterm, Kind.children, ObjectShape.children, List.map_cons, List.map_nil,
      Option.toList_none, List.append_nil, List.forall_mem_cons, List.not_mem_nil, false_implies,
      implies_true, and_true, Except.ok.injEq, forall_eq']
    exact ⟨fun _ hn _ => not_disguised_glossaryPatterns hn, fun _ hn _ => not_disguised_nil hn⟩
  exact
    { items := fun m _ hm _ htype => (htypes m hm htype).elim
      names := fun m o hm ho n hn w hw => (hnames m hm o ho n hn w hw).elim }

theorem glossary_reference_reported : (Json.object glossary).WellFormed ∧
    ofJson (.object glossary) = .ok glossarySchema ∧
    (Json.object glossary).Refers "#/x/Note" ∧ Shows (.object glossary) "#/x/Note" ∧
    ("#/x/Note" ∈ glossarySchema.references ∨
      ∃ u ∈ glossarySchema.unfollowed, u.pointer = "#/x/Note") := by
  have hwellFormed : (Json.object glossary).WellFormed := by
    simp [glossary, glossaryPatterns, Json.WellFormed, Json.WellFormedMembers, Members.Distinct,
      Members.keys]
  have hread : ofJson (.object glossary) = .ok glossarySchema := by
    refine read_object_eq_ok_iff.mpr ⟨_, _, rfl, .object _ (.cons ⟨rfl, ?_⟩ .nil) .none, rfl⟩
    exact read_ofPointer _ _
  have hrefers : (Json.object glossary).Refers "#/x/Note" :=
    ⟨_, .child (.named (show "patternProperties" ∈ Json.mapKeywords by decide) rfl
      (show Members.get? _ "^x-" = some _ from rfl)) (.self _), rfl⟩
  exact ⟨hwellFormed, hread, hrefers, shows_glossary _,
    mem_references_or_unfollowed hwellFormed hread hrefers (shows_glossary _)⟩

end Glossary

section Lost

/-- A reference of a value is neither one of the schema that is read nor reported. -/
def Loses (v : Json) (s : Schema) (p : String) : Prop :=
  v.WellFormed ∧ ofJson v = .ok s ∧ v.Refers p ∧
    ¬ (p ∈ s.references ∨ ∃ u ∈ s.unfollowed, u.pointer = p)

/-- A schema under the name of a keyword that holds data. -/
def disguised : Members Json :=
  [("patternProperties",
    .object [("default", .object [("$ref", .string "#/components/schemas/X")])])]

/-- An enumeration whose items are no list of records. -/
def unlisted : Members Json :=
  [("type", .string "enum"), ("items", .object [("$ref", .string "#/components/schemas/X")])]

theorem disguised_lost :
    Loses (.object disguised) (mk (.leaf ⟨[], none, none⟩) disguised) "#/components/schemas/X" ∧
    Loses (.object unlisted) (mk (.variants []) []) "#/components/schemas/X" := by
  have hdisguised : Outline.ofMembers disguised = .ok ⟨.leaf ⟨[], none, none⟩, disguised⟩ := rfl
  have hunlisted : Outline.ofMembers unlisted = .ok ⟨.variants [], []⟩ := rfl
  refine ⟨⟨?_, ?_, ?_, ?_⟩, ⟨?_, ?_, ?_, ?_⟩⟩
  · simp [disguised, Json.WellFormed, Json.WellFormedMembers, Members.Distinct, Members.keys]
  · exact read_object_eq_ok_iff.mpr ⟨_, _, hdisguised, .leaf _, rfl⟩
  · exact ⟨_, .child (.named (show "patternProperties" ∈ Json.mapKeywords by decide) rfl
      (show Members.get? _ "default" = some _ from rfl)) (.self _), rfl⟩
  · rw [references_mk, unfollowed_mk]
    rintro (hp | ⟨u, hu, -⟩)
    · cases hp
    · cases (show u ∈ ([] : List Unfollowed) from hu)
  · simp [unlisted, Json.WellFormed, Json.WellFormedMembers, Members.Distinct, Members.keys]
  · exact read_object_eq_ok_iff.mpr ⟨_, _, hunlisted, .variants .nil, rfl⟩
  · exact ⟨_, .child (.single (show "items" ∈ Json.singleKeywords by decide) rfl) (.self _), rfl⟩
  · rw [references_mk, unfollowed_mk]
    rintro (hp | ⟨u, hu, -⟩)
    · cases hp
    · cases hu

end Lost

end Schema

end MockBuilders
