import MockBuilders.Proofs.Schema.Layers
import MockBuilders.Proofs.Schema.Rereading.Compositions

/-!
An intersection has two spellings, a list under `allOf` and items that are combined by `and`. Only
the first makes branches of the properties and the alternatives that stand beside the list.
Main statement: `Schema.agree_spellings_iff`.
-/
namespace MockBuilders

namespace Outline

/-- The ways to list the branches of an intersection. -/
inductive Spelling where
  | allOf
  | items

def Spelling.keywords : Spelling → List String
  | allOf => ["allOf"]
  | items => ["items", "logicalOperator"]

def Spelling.members (branches : List Json) : Spelling → Members Json
  | allOf => [("allOf", .array branches)]
  | items => [("items", .array branches), ("logicalOperator", .string "and")]

theorem Spelling.keys_members (branches : List Json) (s : Spelling) :
    (s.members branches).keys = s.keywords := by
  cases s <;> rfl

/-- Members beside which a list of branches is read as an intersection, in either spelling. -/
structure Siblings (n : Members Json) : Prop where
  wellFormed : (Json.object n).WellFormed
  absent : ∀ keyword ∈ ["$ref", "items", "logicalOperator", "allOf", "enum"],
    n.get? keyword = none
  type : ∀ type, n.get? "type" = some type → type = .string "object"

variable {n m : Members Json} {branches : List Json} {s : Spelling}

theorem Siblings.distinct (hn : Siblings n) : n.Distinct :=
  (Json.wellFormed_object_iff.mp hn.wellFormed).1

theorem Siblings.get?_eq_none (hn : Siblings n) {key : String} (hkey : key ∈ s.keywords) :
    n.get? key = none := by
  have hsubset : s.keywords ⊆ ["$ref", "items", "logicalOperator", "allOf", "enum"] := by
    cases s <;> decide
  exact hn.absent key (hsubset hkey)

theorem distinct_spelled (hn : Siblings n) : (n ++ s.members branches).Distinct := by
  rw [Members.Distinct, Members.keys_append, Spelling.keys_members]
  apply List.Nodup.append hn.distinct
  · cases s <;> decide
  · exact fun key hkey hs => Members.get?_eq_none_iff.mp (hn.get?_eq_none hs) hkey

section Spelled
variable (hn : Siblings n) (hm : m.Perm (n ++ s.members branches))
include hn hm

theorem distinct_of_spelled : m.Distinct := (distinct_spelled hn).of_perm hm.symm

theorem get?_of_spelled (key : String) :
    m.get? key = (n.get? key).or ((s.members branches).get? key) := by
  rw [Members.get?_of_perm (distinct_of_spelled hn hm) hm, Members.get?_append]

theorem get?_beside {key : String} (hkey : key ∉ s.keywords) : m.get? key = n.get? key := by
  have hnone : (s.members branches).get? key = none :=
    Members.get?_eq_none_iff.mpr (by rwa [Spelling.keys_members])
  rw [get?_of_spelled hn hm, hnone, Option.or_none]

theorem get?_listed {key : String}
    (hkey : key ∈ ["$ref", "items", "logicalOperator", "allOf", "enum"]) :
    m.get? key = (s.members branches).get? key := by
  rw [get?_of_spelled hn hm, hn.absent key hkey, Option.none_or]

theorem get?_type_of_spelled : m.get? "type" = n.get? "type" :=
  get?_beside hn hm (by cases s <;> decide)

theorem textAt_type_ne {text : String} (htext : "object" ≠ text) :
    textAt m "type" ≠ some text := by
  intro h
  have htype := get?_of_textAt h
  rw [get?_type_of_spelled hn hm] at htype
  exact htext (Json.string.inj (hn.type _ htype)).symm

theorem noEnumeration_of_spelled : NoEnumeration m where
  pointer := by
    rw [textAt, get?_listed hn hm (by decide)]
    cases s <;> rfl
  type := textAt_type_ne hn hm (by decide)
  values := by
    rw [listAt, get?_listed hn hm (by decide)]
    cases s <;> rfl

theorem hasType_array_of_spelled : hasType m "array" = false := by
  rw [hasType, get?_type_of_spelled hn hm]
  cases htype : n.get? "type" with
  | none => rfl
  | some type =>
    rw [hn.type type htype]
    decide

end Spelled

/-- Items that are combined by `and` are the only branches; all else is kept beside them. -/
theorem ofMembers_of_items (hn : Siblings n)
    (hm : m.Perm (n ++ Spelling.items.members branches)) :
    ∃ e : Members Json, ofMembers m = .ok ⟨.allOf (parts "items" branches), e⟩ ∧ e.Perm n := by
  have hlist : listAt m "items" = some branches := by
    rw [listAt, get?_listed hn hm (by decide)]
    rfl
  have hoperator : textAt m "logicalOperator" = some "and" := by
    rw [textAt, get?_listed hn hm (by decide)]
    rfl
  have hunion : isRawUnion m = true := isRawUnion_eq_true_iff.mpr ⟨by rw [hlist]; rfl,
    fun _ => by rw [hoperator]; rfl, hasType_array_of_spelled hn hm,
    textAt_type_ne hn hm (by decide)⟩
  have hdistinct := distinct_of_spelled hn hm
  refine ⟨(m.take "items").take "logicalOperator", ?_, ?_⟩
  · rw [ofMembers_itemList (noEnumeration_of_spelled hn hm) hlist hunion, ofItemList,
      if_pos hoperator]
  · refine Members.perm_of_get?_eq ((hdistinct.take _).take _) hn.distinct fun key => ?_
    rw [Members.get?_take (hdistinct.take _), Members.get?_take hdistinct]
    split
    · next h => rw [← h, hn.absent _ (by decide)]
    split
    · next h => rw [← h, hn.absent _ (by decide)]
    · next hoperator hitems =>
      exact get?_beside hn hm
        (by simp [Spelling.keywords, Ne.symm hitems, Ne.symm hoperator])

section AllOf
variable (hn : Siblings n) (hm : m.Perm (n ++ Spelling.allOf.members branches))
include hn hm

/-- Own properties and own alternatives are branches beside those that are listed as `allOf`. -/
theorem ofMembers_of_allOf : ofMembers m = .ok (ofAllOf m branches) := by
  have hlist : listAt m "allOf" = some branches := by
    rw [listAt, get?_listed hn hm (by decide)]
    rfl
  refine ofMembers_allOf ⟨noEnumeration_of_spelled hn hm, hasType_array_of_spelled hn hm, ?_⟩ hlist
  rw [get?_listed hn hm (by decide)]
  rfl

theorem get?_beside_allOf {key : String} (hne : key ≠ "allOf") : m.get? key = n.get? key :=
  get?_beside hn hm (mt List.mem_singleton.mp hne)

theorem has_properties_of_allOf : m.has "properties" = n.has "properties" := by
  rw [Members.has, get?_beside_allOf hn hm (by decide), Members.has]

theorem choice?_of_allOf : choice? m = choice? n :=
  choice?_congr (get?_beside_allOf hn hm (by decide)) (get?_beside_allOf hn hm (by decide))

/-- Nothing but a list of branches is taken from members that have no other branches. -/
theorem ofAllOf_of_plain (hproperties : n.has "properties" = false) (hchoice : choice? n = none) :
    ∃ e : Members Json, ofAllOf m branches = ⟨.allOf (parts "allOf" branches), e⟩ ∧ e.Perm n := by
  have hown := (has_properties_of_allOf hn hm).trans hproperties
  have hnone := (choice?_of_allOf hn hm).trans hchoice
  have hdistinct := distinct_of_spelled hn hm
  have hrest := Members.PartOf.take (.refl hdistinct) "allOf"
  refine ⟨m.take "allOf", ?_, ?_⟩
  · rw [ofAllOf, takeOwn_eq (has_false_of_partOf hrest hown) (choice?_none_of_partOf hrest hnone)]
    simp [ownObject, ownChoice, hown, hnone]
  · refine Members.perm_of_get?_eq (hdistinct.take _) hn.distinct fun key => ?_
    rw [Members.get?_take hdistinct]
    split
    · next h => rw [← h, hn.absent _ (by decide)]
    · next h => exact get?_beside_allOf hn hm (Ne.symm h)

/-- What makes a branch beside the list makes the layer longer than the list. -/
theorem length_lt_ofAllOf (h : ¬(n.has "properties" = false ∧ choice? n = none)) :
    branches.length < (ofAllOf m branches).kind.children.length := by
  have hparts : (parts "allOf" branches).length = branches.length := List.length_mapIdx
  simp only [ofAllOf, Kind.children, List.length_append, hparts, ownObject, ownChoice,
    has_properties_of_allOf hn hm, choice?_of_allOf hn hm]
  by_cases hproperties : n.has "properties" = true
  · rw [if_pos hproperties, List.length_singleton]
    omega
  · obtain ⟨c, hc⟩ := Option.ne_none_iff_exists'.mp fun hnone =>
      h ⟨by simpa using hproperties, hnone⟩
    rw [hc, Option.toList_some, List.length_map, List.length_singleton]
    omega

end AllOf

end Outline

section Length
variable {σ τ : Type} {R : σ → τ → Prop}

theorem Members.Alike.length_eq {m : Members σ} {n : Members τ} (h : m.Alike R n) :
    m.length = n.length := by
  obtain ⟨-, -, l, hml, hln⟩ := alike_iff_reordered.mp h
  exact (matched_iff.mp hml).length_eq.trans hln.length_eq

/-- Alike layers have equally many children. -/
theorem Kind.Alike.length_children {k : Kind σ} {l : Kind τ} (h : k.Alike R l) :
    k.children.length = l.children.length := by
  cases h with
  | object h =>
    obtain ⟨hproperties, -, hadditional⟩ := ObjectShape.alike_iff.mp h
    simp only [children, ObjectShape.children, List.length_append, List.length_map,
      hproperties.length_eq, Option.length_toList, isSome_eq_of_rel hadditional]
  | arrayOf _ => rfl
  | mixedArray h | tuple h | allOf h | choice _ h | variants h | union h => exact h.length_eq
  | reference _ | anyArray | enumeration _ _ | leaf _ => rfl

end Length

namespace Schema

variable {n m m' : Members Json} {branches : List Json}

theorem exists_read_object_iff {pointer : String} {o : Outline}
    (ho : Outline.ofMembers m = .ok o) :
    (∃ s, read pointer (.object m) = .ok s) ↔
      ∀ p ∈ o.kind.children, ∃ t, read (pointer ++ p.step) p.value = .ok t := by
  rw [← Kind.exists_traverse_eq_ok_iff]
  constructor
  · rintro ⟨s, hs⟩
    obtain ⟨_, k, ho', hk, -⟩ := read_object_eq_ok_iff.mp hs
    obtain rfl := Except.ok.inj (ho.symm.trans ho')
    exact ⟨k, Kind.traverse_eq_ok_iff.mpr hk⟩
  · rintro ⟨k, hk⟩
    exact ⟨_, read_object_eq_ok_iff.mpr ⟨o, k, ho, Kind.traverse_eq_ok_iff.mp hk, rfl⟩⟩

theorem length_children_of_read {pointer : String} {s : Schema} {o : Outline}
    (ho : Outline.ofMembers m = .ok o) (hs : read pointer (.object m) = .ok s) :
    s.kind.children.length = o.kind.children.length := by
  obtain ⟨_, k, hsame, hk, rfl⟩ := read_object_eq_ok_iff.mp hs
  obtain rfl := Except.ok.inj (ho.symm.trans hsame)
  exact hk.children.length_eq.symm

/-- Whether a value is read does not depend on where it stands. -/
theorem exists_read_iff_ofJson {v : Json} (hv : v.WellFormed) (pointer : String) :
    (∃ t, read pointer v = .ok t) ↔ ∃ t, ofJson v = .ok t :=
  (agree_read (.refl hv) pointer "#").exists_ok_iff

theorem exists_read_parts_iff (hbranches : ∀ b ∈ branches, b.WellFormed)
    (pointer keyword : String) :
    (∀ p ∈ Outline.parts keyword branches, ∃ t, read (pointer ++ p.step) p.value = .ok t) ↔
      ∀ b ∈ branches, ∃ t, ofJson b = .ok t := by
  have hvalues := Outline.map_value_parts keyword branches
  constructor
  · intro h b hb
    rw [← hvalues] at hb
    obtain ⟨p, hp, rfl⟩ := List.mem_map.mp hb
    exact (exists_read_iff_ofJson (hbranches _ (hvalues ▸ hb)) _).mp (h p hp)
  · intro h p hp
    have hb : p.value ∈ branches := hvalues ▸ List.mem_map_of_mem hp
    exact (exists_read_iff_ofJson (hbranches _ hb) _).mpr (h _ hb)

/-- Without other branches beside the list, both spellings are read alike. -/
theorem agree_of_plain (hn : Outline.Siblings n) (hbranches : ∀ b ∈ branches, b.WellFormed)
    (hm : m.Perm (n ++ Outline.Spelling.items.members branches))
    (hm' : m'.Perm (n ++ Outline.Spelling.allOf.members branches))
    (hproperties : n.has "properties" = false) (hchoice : Outline.choice? n = none) :
    Agree Alike (ofJson (.object m)) (ofJson (.object m')) := by
  obtain ⟨e, ho, he⟩ := Outline.ofMembers_of_items hn hm
  obtain ⟨f, hf, hfn⟩ := Outline.ofAllOf_of_plain hn hm' hproperties hchoice
  have ho' := Outline.ofMembers_of_allOf hn hm'
  have hext : Members.Alike Json.Alike e f := by
    have hsame := Json.alike_object_iff.mp (.refl hn.wellFormed)
    refine ⟨hn.distinct.of_perm he.symm, hn.distinct.of_perm hfn.symm, fun key => ?_⟩
    rw [← Members.get?_of_perm hn.distinct he.symm, ← Members.get?_of_perm hn.distinct hfn.symm]
    exact hsame.get? key
  have hlisted : List.Forall₂ Part.Alike (Outline.parts "items" branches)
      (Outline.parts "allOf" branches) :=
    forall₂_mapIdx (List.forall₂_same.mpr fun b hb => Json.Alike.refl (hbranches b hb))
      fun _ _ _ h => h
  rw [ofJson, ofJson, read_object, read_object, ho, ho', hf]
  have hkind := (Kind.Alike.allOf hlisted).traverse fun p _ q _ hpq =>
    agree_read hpq ("#" ++ p.step) ("#" ++ q.step)
  exact hkind.bind fun k l hkl => .ok (.mk hkl hext)

/-- The spellings of an intersection are read alike if and only if nothing beside the list makes
a branch, but for lists that are refused either way. -/
theorem agree_spellings_iff (hn : Outline.Siblings n) (hbranches : ∀ b ∈ branches, b.WellFormed)
    (hm : m.Perm (n ++ Outline.Spelling.items.members branches))
    (hm' : m'.Perm (n ++ Outline.Spelling.allOf.members branches)) :
    Agree Alike (ofJson (.object m)) (ofJson (.object m')) ↔
      (n.has "properties" = false ∧ Outline.choice? n = none) ∨
        ∃ b ∈ branches, ¬ ∃ t, ofJson b = .ok t := by
  obtain ⟨e, ho, -⟩ := Outline.ofMembers_of_items hn hm
  have ho' := Outline.ofMembers_of_allOf hn hm'
  have hread : (∃ s, ofJson (.object m) = .ok s) ↔ ∀ b ∈ branches, ∃ t, ofJson b = .ok t :=
    (exists_read_object_iff ho).trans (exists_read_parts_iff hbranches "#" "items")
  have hread' : (∃ s, ofJson (.object m') = .ok s) → ∀ b ∈ branches, ∃ t, ofJson b = .ok t := by
    intro h
    refine (exists_read_parts_iff hbranches "#" "allOf").mp fun p hp => ?_
    exact (exists_read_object_iff ho').mp h p
      (List.mem_append_left _ (List.mem_append_right _ hp))
  constructor
  · intro hagree
    by_contra hnot
    obtain ⟨hbeside, hall⟩ := not_or.mp hnot
    push Not at hall
    -- both are read, and the second as a longer intersection
    obtain ⟨s, hs⟩ := hread.mpr hall
    obtain ⟨t, ht⟩ := hagree.exists_ok_iff.mp ⟨s, hs⟩
    have hlength := (hagree.rel hs ht).kind.length_children
    have hlt := Outline.length_lt_ofAllOf hn hm' hbeside
    have hparts : (Outline.parts "items" branches).length = branches.length := List.length_mapIdx
    rw [length_children_of_read ho hs, length_children_of_read ho' ht] at hlength
    simp only [Kind.children, hparts] at hlength hlt
    omega
  · rintro (⟨hproperties, hchoice⟩ | ⟨b, hb, hrefused⟩)
    · exact agree_of_plain hn hbranches hm hm' hproperties hchoice
    · have hnone : ∀ {P : Prop}, (∀ b ∈ branches, ∃ t, ofJson b = .ok t) → P := fun h =>
        (hrefused (h b hb)).elim
      refine agree_of ⟨fun h => hnone (hread.mp h), fun h => hnone (hread' h)⟩ fun s t hs _ => ?_
      exact hnone (hread.mp ⟨s, hs⟩)

section Member

/-- Names that are required of what is a base and anything else. -/
def memberSiblings : Members Json :=
  [("type", .string "object"), ("required", .array [.string "id"])]

def memberBranches : List Json := [.object [("$ref", .string "#/x/Base")], .bool true]

def memberItems : Members Json :=
  Outline.Spelling.items.members memberBranches ++ memberSiblings

def memberAllOf : Members Json :=
  Outline.Spelling.allOf.members memberBranches ++ memberSiblings

theorem member_spellings_agree : Outline.Siblings memberSiblings ∧
    (∀ b ∈ memberBranches, b.WellFormed) ∧
    memberItems.Perm (memberSiblings ++ Outline.Spelling.items.members memberBranches) ∧
    memberAllOf.Perm (memberSiblings ++ Outline.Spelling.allOf.members memberBranches) ∧
    Agree Alike (ofJson (.object memberItems)) (ofJson (.object memberAllOf)) := by
  have hsiblings : Outline.Siblings memberSiblings := by
    refine ⟨?_, ?_, fun type htype => (Option.some.inj htype).symm⟩
    · simp [memberSiblings, Json.WellFormed, Json.WellFormedMembers, Json.WellFormedItems,
        Members.Distinct, Members.keys]
    · simp [memberSiblings, Members.get?]
  have hbranches : ∀ b ∈ memberBranches, b.WellFormed := by
    simp [memberBranches, Json.WellFormed, Json.WellFormedMembers, Members.Distinct, Members.keys]
  refine ⟨hsiblings, hbranches, List.perm_append_comm, List.perm_append_comm, ?_⟩
  exact (agree_spellings_iff hsiblings hbranches List.perm_append_comm
    List.perm_append_comm).mpr (.inl ⟨rfl, rfl⟩)

end Member

section Account

/-- A property beside what every account is made of. -/
def accountSiblings : Members Json :=
  [("properties", .object [("id", .object [("type", .string "string")])])]

def accountBranches : List Json := [.object [("$ref", .string "#/x/Base")]]

/-- The property is kept aside by one spelling, and is a branch of the other. -/
theorem account_spellings_differ : Outline.Siblings accountSiblings ∧
    (∀ b ∈ accountBranches, b.WellFormed) ∧
    ofJson (.object (accountSiblings ++ Outline.Spelling.items.members accountBranches)) =
      .ok (mk (.allOf [ofPointer "#/x/Base"]) accountSiblings) ∧
    ofJson (.object (accountSiblings ++ Outline.Spelling.allOf.members accountBranches)) =
      .ok (mk (.allOf [mk (.object ⟨[("id", ofPrimitive .string)], [], none⟩) [],
        ofPointer "#/x/Base"]) []) ∧
    ¬ Agree Alike
      (ofJson (.object (accountSiblings ++ Outline.Spelling.items.members accountBranches)))
      (ofJson (.object (accountSiblings ++ Outline.Spelling.allOf.members accountBranches))) := by
  have hitems : ofJson (.object (accountSiblings ++
      Outline.Spelling.items.members accountBranches)) =
        .ok (mk (.allOf [ofPointer "#/x/Base"]) accountSiblings) :=
    read_object_eq_ok_iff.mpr ⟨_, _, rfl, .allOf (.cons (read_ofPointer _ _) .nil), rfl⟩
  have hallOf : ofJson (.object (accountSiblings ++
      Outline.Spelling.allOf.members accountBranches)) =
        .ok (mk (.allOf [mk (.object ⟨[("id", ofPrimitive .string)], [], none⟩) [],
          ofPointer "#/x/Base"]) []) := by
    refine read_object_eq_ok_iff.mpr
      ⟨_, _, rfl, .allOf (.cons ?_ (.cons (read_ofPointer _ _) .nil)), rfl⟩
    exact read_object_eq_ok_iff.mpr
      ⟨_, _, rfl, .object _ (.cons ⟨rfl, read_ofPrimitive _ .string⟩ .nil) .none, rfl⟩
  refine ⟨⟨?_, ?_, fun type htype => by cases htype⟩, ?_, hitems, hallOf, fun hagree => ?_⟩
  · simp [accountSiblings, Json.WellFormed, Json.WellFormedMembers, Members.Distinct,
      Members.keys]
  · simp [accountSiblings, Members.get?]
  · simp [accountBranches, Json.WellFormed, Json.WellFormedMembers, Members.Distinct,
      Members.keys]
  · exact absurd (hagree.rel hitems hallOf).kind.length_children (by decide)

end Account

end Schema

end MockBuilders
