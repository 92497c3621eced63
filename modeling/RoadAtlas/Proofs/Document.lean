import RoadAtlas.Osm.Document
import RoadAtlas.Proofs.FirstSeen
import RoadAtlas.Proofs.Gather

/-!
# The layout of an OSM document

The root element of the document of some ways is `<osm version="0.6" generator="…">`, and its
children are the node section followed by the way section. This module states that layout as
a specification that does not follow the writer's steps, and proves that the writer builds
exactly it:

* the node section holds one element per id that the ways reference and some node row
  carries, in order of first reference, each written from the *last* row with that id
  (`IsLastWithId`, `lastWithId_eq_some_iff`);
* a node element has the attributes `id visible version changeset timestamp user uid lat lon`
  and then one `tag` child per tag of its row (`NodeWritten`); a way element has the first
  seven and then one `nd` child per entry of its path and one `tag` child per tag
  (`WayWritten`).

From the layout follow the facts a reader of the document relies on (`NodeSection`): no two
node elements carry one id, every node element is named by some `nd`, and every `nd` naming a
known node finds exactly one node element before it.

## Main definitions

* `referencedIds`: the ids of the node section.
* `NodeWritten`, `WayWritten`: an element as written from a row.
* `NodeSection`: the facts about node ids that the layout guarantees.

## Main results

* `element_eq_ok_iff_layout`: the writer succeeds exactly with a root of that layout.
-/

namespace RoadAtlas.Xml.Element

/-- The name of an element. -/
def name : Element → String
  | .mk n _ _ => n

/-- The attributes of an element, in order. -/
def attrs : Element → List (String × String)
  | .mk _ a _ => a

/-- The children of an element, in order. -/
def children : Element → List Element
  | .mk _ _ cs => cs

/-- The value of an attribute of an element. -/
def attr? (e : Element) (key : String) : Option String := e.attrs.lookup key

end RoadAtlas.Xml.Element

namespace RoadAtlas.Document

open RoadAtlas.Gather RoadAtlas.FirstSeen

/-! ## The last row with an id -/

theorem lastWithId_append_singleton (nodes : List Node) (m : Node) (i : Int) :
    lastWithId (nodes ++ [m]) i = if m.id = i then some m else lastWithId nodes i := by
  unfold lastWithId nodesById Dict.insert
  rw [List.foldl_append, List.foldl_cons, List.foldl_nil, Dict.get?_alter]
  by_cases hm : m.id = i <;> simp [hm]

/-- `n` is the last row of `nodes` that carries the id `i`. -/
def IsLastWithId (nodes : List Node) (i : Int) (n : Node) : Prop :=
  ∃ pre post, nodes = pre ++ n :: post ∧ n.id = i ∧ ∀ m ∈ post, m.id ≠ i

/-- Where a row can stand in a list that ends with `m`. -/
private theorem split_append_singleton {nodes pre post : List Node} {m n : Node}
    (hSplit : nodes ++ [m] = pre ++ n :: post) :
    (pre = nodes ∧ n = m ∧ post = []) ∨ ∃ post', post = post' ++ [m] ∧ nodes = pre ++ n :: post' := by
  obtain rfl | ⟨post', x, rfl⟩ := List.eq_nil_or_concat post
  · obtain ⟨hNodes, hLast⟩ := List.append_inj' hSplit rfl
    exact Or.inl ⟨hNodes.symm, (List.singleton_inj.mp hLast).symm, rfl⟩
  · have hSplit' : nodes ++ [m] = (pre ++ n :: post') ++ [x] := by simpa using hSplit
    obtain ⟨hNodes, hLast⟩ := List.append_inj' hSplit' rfl
    obtain rfl := List.singleton_inj.mp hLast
    exact Or.inr ⟨post', by simp, hNodes⟩

/-- **The last row wins**: `lastWithId` finds the last row with an id. -/
theorem lastWithId_eq_some_iff (nodes : List Node) (i : Int) (n : Node) :
    lastWithId nodes i = some n ↔ IsLastWithId nodes i n := by
  induction nodes using List.reverseRecOn with
  | nil => simp [lastWithId, nodesById, IsLastWithId]
  | append_singleton nodes m ih =>
      rw [lastWithId_append_singleton]
      by_cases hm : m.id = i
      · -- the new row carries the id, so it is the last one
        simp only [hm, if_true, Option.some.injEq]
        constructor
        · rintro rfl
          exact ⟨nodes, [], by simp, hm, by simp⟩
        · rintro ⟨pre, post, hSplit, -, hPost⟩
          rcases split_append_singleton hSplit with ⟨-, rfl, -⟩ | ⟨post', rfl, -⟩
          · rfl
          · exact absurd hm (hPost m (by simp))
      · -- the new row carries another id, so the last row with `i` is an earlier one
        simp only [hm, if_false]
        rw [ih]
        constructor
        · rintro ⟨pre, post, rfl, hn, hPost⟩
          refine ⟨pre, post ++ [m], by simp, hn, fun x hx => ?_⟩
          rcases List.mem_append.mp hx with hx | hx
          · exact hPost x hx
          · rw [List.mem_singleton.mp hx]
            exact hm
        · rintro ⟨pre, post, hSplit, hn, hPost⟩
          rcases split_append_singleton hSplit with ⟨-, rfl, -⟩ | ⟨post', rfl, hNodes⟩
          · exact absurd hn hm
          · exact ⟨pre, post', hNodes, hn, fun y hy => hPost y (by simp [hy])⟩

/-- Some row carries an id exactly when `lastWithId` finds one. -/
theorem lastWithId_isSome_iff (nodes : List Node) (i : Int) :
    (lastWithId nodes i).isSome ↔ i ∈ nodes.map Node.id := by
  induction nodes using List.reverseRecOn with
  | nil => simp [lastWithId, nodesById]
  | append_singleton nodes m ih =>
      rw [lastWithId_append_singleton]
      by_cases hm : m.id = i
      · simp [hm]
      · simp [hm, ih, Ne.symm hm]

/-! ## The loop over the paths -/

/-- Known ids taken with their nodes: the dictionary has exactly those ids. -/
private theorem contains_takenNodes (byId : List (Int × Node)) {ids : List Int}
    (hKnown : ∀ j ∈ ids, (Dict.get? byId j).isSome) (i : Int) :
    Dict.contains (ids.filterMap fun j => (Dict.get? byId j).map (j, ·)) i = true ↔ i ∈ ids := by
  simp only [Dict.contains, List.any_eq_true, List.mem_filterMap, Option.map_eq_some_iff]
  constructor
  · rintro ⟨e, ⟨j, hj, n, -, rfl⟩, hEq⟩
    rw [← beq_iff_eq.mp hEq]
    exact hj
  · intro hi
    obtain ⟨n, hn⟩ := Option.isSome_iff_exists.mp (hKnown i hi)
    exact ⟨(i, n), ⟨i, hi, n, hn, rfl⟩, beq_self_eq_true i⟩

/-- **The loop over the references.** After some references, the nodes taken are the known ids
among them, each once in order of first reference, each with its node: the first skip keeps
an id from being taken twice, the second keeps unknown ids out. -/
theorem foldl_takeReference (byId : List (Int × Node)) (refs : List Int) :
    refs.foldl (takeReference byId) [] =
      ((refs.filter fun i => (Dict.get? byId i).isSome).eraseDups).filterMap
        fun i => (Dict.get? byId i).map (i, ·) := by
  induction refs using List.reverseRecOn with
  | nil => rfl
  | append_singleton refs i ih =>
    rw [List.foldl_append, List.foldl_cons, List.foldl_nil, ih, List.filter_append]
    have hKnown : ∀ j ∈ (refs.filter fun i => (Dict.get? byId i).isSome).eraseDups,
        (Dict.get? byId j).isSome := fun j hj => by
      simpa using (List.mem_filter.mp (List.mem_eraseDups.mp hj)).2
    unfold takeReference
    by_cases hTaken : Dict.contains (((refs.filter fun i => (Dict.get? byId i).isSome).eraseDups).filterMap
        fun j => (Dict.get? byId j).map (j, ·)) i = true
    · -- a taken id is known and was referenced before: nothing changes
      have hMem := (List.mem_eraseDups.mp ((contains_takenNodes byId hKnown i).mp hTaken))
      have hIs := (List.mem_filter.mp hMem).2
      rw [if_pos hTaken, List.filter_cons, List.filter_nil, if_pos hIs,
        eraseDups_append_singleton, if_pos hMem]
    · rw [if_neg hTaken]
      cases hNode : Dict.get? byId i with
      | none => simp [hNode]
      | some n =>
        -- a new known id is taken last
        have hNew : i ∉ refs.filter fun i => (Dict.get? byId i).isSome := fun hMem =>
          hTaken ((contains_takenNodes byId hKnown i).mpr (List.mem_eraseDups.mpr hMem))
        have hIs : (Dict.get? byId i).isSome = true := by simp [hNode]
        rw [List.filter_cons, List.filter_nil, if_pos hIs,
          eraseDups_append_singleton, if_neg hNew, List.filterMap_append]
        dsimp only
        rw [Dict.insert, Dict.alter_of_contains_eq_false (by simpa using hTaken)]
        simp [hNode]

/-- The nodes of the document are the known ids that the ways reference, each once in order of
first reference, each with the last node of that id. -/
theorem referencedNodes_eq (nodes : List Node) (ways : List Way) :
    referencedNodes nodes ways =
      ((ways.flatMap Way.nodes).filter fun i => (lastWithId nodes i).isSome).eraseDups.filterMap
        (lastWithId nodes) := by
  unfold referencedNodes
  dsimp only
  rw [← List.foldl_flatMap, foldl_takeReference, List.map_filterMap]
  -- taking an id with its node and then reading the node back is the lookup itself
  simp only [Option.map_map, Function.comp_def, Option.map_id']
  rfl

/-! ## The node section -/

/-- The ids of the node section: those the ways reference and some row carries, each once, in
order of first reference. -/
def referencedIds (nodes : List Node) (ways : List Way) : List Int :=
  ((ways.flatMap Way.nodes).filter fun i => i ∈ nodes.map Node.id).eraseDups

theorem referencedIds_nodup (nodes : List Node) (ways : List Way) :
    (referencedIds nodes ways).Nodup :=
  nodup_eraseDups _

theorem mem_referencedIds (nodes : List Node) (ways : List Way) (i : Int) :
    i ∈ referencedIds nodes ways ↔ (∃ w ∈ ways, i ∈ w.nodes) ∧ i ∈ nodes.map Node.id := by
  simp [referencedIds, List.mem_eraseDups, List.mem_filter, List.mem_flatMap]

/-- A partial function defined on every item of a list maps it item by item. -/
private theorem forall₂_filterMap {α β : Type} (f : α → Option β) :
    ∀ l : List α, (∀ a ∈ l, (f a).isSome) → List.Forall₂ (fun a b => f a = some b) l (l.filterMap f)
  | [], _ => List.Forall₂.nil
  | a :: l, hSome => by
      obtain ⟨b, hb⟩ := Option.isSome_iff_exists.mp (hSome a (List.mem_cons_self ..))
      rw [List.filterMap_cons_some hb]
      exact List.Forall₂.cons hb (forall₂_filterMap f l fun x hx => hSome x (List.mem_cons_of_mem a hx))

/-- **The node section, id by id**: the rows the writer selects are, for each id of
`referencedIds` in turn, the last row with that id. -/
theorem forall₂_referencedNodes (nodes : List Node) (ways : List Way) :
    List.Forall₂ (IsLastWithId nodes) (referencedIds nodes ways) (referencedNodes nodes ways) := by
  have hFilter : ((ways.flatMap Way.nodes).filter fun i => (lastWithId nodes i).isSome) =
      (ways.flatMap Way.nodes).filter fun i => i ∈ nodes.map Node.id :=
    List.filter_congr fun i _ => Bool.eq_iff_iff.mpr (by rw [lastWithId_isSome_iff]; simp)
  have hKnown : ∀ i ∈ referencedIds nodes ways, (lastWithId nodes i).isSome := fun i hi =>
    (lastWithId_isSome_iff nodes i).mpr ((mem_referencedIds nodes ways i).mp hi).2
  rw [referencedNodes_eq, hFilter]
  exact (forall₂_filterMap (lastWithId nodes) _ hKnown).imp
    fun i n h => (lastWithId_eq_some_iff nodes i n).mp h

/-- Rows chosen id by id carry those ids. -/
theorem map_id_of_forall₂ {nodes selected : List Node} {ids : List Int}
    (hRel : List.Forall₂ (IsLastWithId nodes) ids selected) : selected.map Node.id = ids := by
  induction hRel with
  | nil => rfl
  | cons hLast _ ih =>
      obtain ⟨-, -, -, hId, -⟩ := hLast
      simp [hId, ih]

/-! ## Elements written from rows -/

/-- The attributes of the element of a tag. -/
def tagAttrs (t : Tag) : List (String × String) := [("k", t.key), ("v", t.value)]

/-- The element of a tag. -/
def tagShape (t : Tag) : Xml.Element := .mk "tag" (tagAttrs t) []

/-- The attributes shared by nodes and ways, the timestamp written as `ts`. -/
def entityAttrs (id : Int) (r : Revision) (ts : String) : List (String × String) :=
  [("id", toString id), ("visible", if r.visible then "true" else "false"),
    ("version", toString r.version), ("changeset", toString r.changeset), ("timestamp", ts),
    ("user", r.user), ("uid", toString r.uid)]

/-- The attributes of the element of a node. -/
def nodeAttrs (n : Node) (ts lat lon : String) : List (String × String) :=
  entityAttrs n.id n.revision ts ++ [("lat", lat), ("lon", lon)]

/-- `e` is the element of the node `n`: the timestamp and both coordinates can be written, the
attribute values of the node and of its tags are XML-compatible, and `e` holds the attributes
in order and then one `tag` child per tag. -/
def NodeWritten (n : Node) (e : Xml.Element) : Prop :=
  ∃ ts lat lon, n.revision.timestamp.mapText = .ok ts ∧ Coordinate.text n.latitude = .ok lat ∧
    Coordinate.text n.longitude = .ok lon ∧ Xml.checkAttrs (nodeAttrs n ts lat lon) = .ok () ∧
    (∀ t ∈ n.tags, Xml.checkAttrs (tagAttrs t) = .ok ()) ∧
    e = .mk "node" (nodeAttrs n ts lat lon) (n.tags.map tagShape)

/-- `e` is the element of the way `w`: the attributes, then one `nd` child per entry of the
path, known node or not, then one `tag` child per tag. -/
def WayWritten (w : Way) (e : Xml.Element) : Prop :=
  ∃ ts, w.revision.timestamp.mapText = .ok ts ∧
    Xml.checkAttrs (entityAttrs w.id w.revision ts) = .ok () ∧
    (∀ t ∈ w.tags, Xml.checkAttrs (tagAttrs t) = .ok ()) ∧
    e = .mk "way" (entityAttrs w.id w.revision ts) (w.nodes.map refElement ++ w.tags.map tagShape)

theorem make_eq_ok_iff (name : String) (attrs : List (String × String))
    (children : List Xml.Element) (e : Xml.Element) :
    Xml.Element.make name attrs children = .ok e ↔
      Xml.checkAttrs attrs = .ok () ∧ e = .mk name attrs children := by
  simp only [Xml.Element.make, bind_eq_ok_iff]
  constructor
  · rintro ⟨⟨⟩, hCheck, hPure⟩
    exact ⟨hCheck, (Except.ok.inj hPure).symm⟩
  · rintro ⟨hCheck, rfl⟩
    exact ⟨(), hCheck, rfl⟩

theorem mapM_tagElement_eq_ok_iff (tags : List Tag) (es : List Xml.Element) :
    tags.mapM tagElement = .ok es ↔
      (∀ t ∈ tags, Xml.checkAttrs (tagAttrs t) = .ok ()) ∧ es = tags.map tagShape :=
  mapM_eq_ok_iff_map tagElement _ tagShape (fun _ e => make_eq_ok_iff _ _ _ e) tags es

theorem revisionAttrs_eq_ok_iff (id : Int) (r : Revision) (attrs : List (String × String)) :
    revisionAttrs id r = .ok attrs ↔ ∃ ts, r.timestamp.mapText = .ok ts ∧ attrs = entityAttrs id r ts := by
  simp only [revisionAttrs, bind_eq_ok_iff, mapError_eq_ok_iff]
  constructor
  · rintro ⟨ts, hts, hPure⟩
    exact ⟨ts, hts, (Except.ok.inj hPure).symm⟩
  · rintro ⟨ts, hts, rfl⟩
    exact ⟨ts, hts, rfl⟩

/-- The writer's node element is the element of the node. -/
theorem nodeElement_eq_ok_iff (n : Node) (e : Xml.Element) :
    nodeElement n = .ok e ↔ NodeWritten n e := by
  simp only [nodeElement, bind_eq_ok_iff, mapError_eq_ok_iff, revisionAttrs_eq_ok_iff,
    mapM_tagElement_eq_ok_iff]
  constructor
  · rintro ⟨_, ⟨ts, hts, rfl⟩, lat, hLat, lon, hLon, ⟨⟩, hCheck, _, ⟨hTags, rfl⟩, hPure⟩
    exact ⟨ts, lat, lon, hts, hLat, hLon, hCheck, hTags, (Except.ok.inj hPure).symm⟩
  · rintro ⟨ts, lat, lon, hts, hLat, hLon, hCheck, hTags, rfl⟩
    exact ⟨_, ⟨ts, hts, rfl⟩, lat, hLat, lon, hLon, (), hCheck, _, ⟨hTags, rfl⟩, rfl⟩

/-- The writer's way element is the element of the way. -/
theorem wayElement_eq_ok_iff (w : Way) (e : Xml.Element) :
    wayElement w = .ok e ↔ WayWritten w e := by
  simp only [wayElement, bind_eq_ok_iff, revisionAttrs_eq_ok_iff, mapM_tagElement_eq_ok_iff]
  constructor
  · rintro ⟨_, ⟨ts, hts, rfl⟩, ⟨⟩, hCheck, _, ⟨hTags, rfl⟩, hPure⟩
    exact ⟨ts, hts, hCheck, hTags, (Except.ok.inj hPure).symm⟩
  · rintro ⟨ts, hts, hCheck, hTags, rfl⟩
    exact ⟨_, ⟨ts, hts, rfl⟩, (), hCheck, _, ⟨hTags, rfl⟩, rfl⟩

/-! ## What a reader of the document may rely on -/

/-- The facts about node ids that the node section guarantees to a reader: no id twice, every
node element named by some `nd` of a way, and every `nd` that names a known node finding
exactly one node element before it. -/
structure NodeSection (nodes : List Node) (nodeEls wayEls : List Xml.Element) : Prop where
  ids_nodup : (nodeEls.map (·.attr? "id")).Nodup
  referenced : ∀ e ∈ nodeEls, ∃ w ∈ wayEls, ∃ d ∈ w.children, d.name = "nd" ∧ d.attr? "ref" = e.attr? "id"
  unique : ∀ w ∈ wayEls, ∀ d ∈ w.children, d.name = "nd" → ∀ i ∈ nodes.map Node.id,
    d.attr? "ref" = some (toString i) → (nodeEls.filter fun e => e.attr? "id" = some (toString i)).length = 1

theorem attr_id_of_nodeWritten {n : Node} {e : Xml.Element} (h : NodeWritten n e) :
    e.attr? "id" = some (toString n.id) := by
  obtain ⟨ts, lat, lon, -, -, -, -, -, rfl⟩ := h
  simp [Xml.Element.attr?, Xml.Element.attrs, nodeAttrs, entityAttrs]

/-- The children of a way element that are named `nd` are the references of its path. -/
theorem nd_child_of_wayWritten {w : Way} {e d : Xml.Element} (h : WayWritten w e)
    (hd : d ∈ e.children) (hName : d.name = "nd") : ∃ j ∈ w.nodes, d = refElement j := by
  obtain ⟨ts, -, -, -, rfl⟩ := h
  rcases List.mem_append.mp hd with hRef | hTag
  · obtain ⟨j, hj, rfl⟩ := List.mem_map.mp hRef
    exact ⟨j, hj, rfl⟩
  · obtain ⟨t, -, rfl⟩ := List.mem_map.mp hTag
    simp [tagShape, Xml.Element.name] at hName

theorem refElement_attr (j : Int) : (refElement j).attr? "ref" = some (toString j) := by
  simp [refElement, Xml.Element.attr?, Xml.Element.attrs]

theorem toString_injective : Function.Injective fun i : Int => some (toString i) :=
  fun _ _ h => Int.repr_inj.mp (Option.some.inj h)

/-- Related lists are related at every member. -/
theorem exists_mem_of_forall₂_left {α β : Type} {R : α → β → Prop} {l₁ : List α}
    {l₂ : List β} (h : List.Forall₂ R l₁ l₂) {a : α} (ha : a ∈ l₁) : ∃ b ∈ l₂, R a b := by
  induction h with
  | nil => simp at ha
  | @cons x y _ _ hxy _ ih =>
      rcases List.mem_cons.mp ha with rfl | ha
      · exact ⟨y, List.mem_cons_self .., hxy⟩
      · obtain ⟨b, hb, hab⟩ := ih ha
        exact ⟨b, List.mem_cons_of_mem y hb, hab⟩

theorem exists_mem_of_forall₂_right {α β : Type} {R : α → β → Prop} {l₁ : List α}
    {l₂ : List β} (h : List.Forall₂ R l₁ l₂) {b : β} (hb : b ∈ l₂) : ∃ a ∈ l₁, R a b := by
  have hFlip : List.Forall₂ (flip R) l₂ l₁ := List.Forall₂.flip (by simpa [flip] using h)
  exact exists_mem_of_forall₂_left hFlip hb

/-- Node elements carry the ids of their rows. -/
theorem map_attr_id_of_forall₂ {selected : List Node} {nodeEls : List Xml.Element}
    (hNodes : List.Forall₂ NodeWritten selected nodeEls) :
    nodeEls.map (·.attr? "id") = selected.map fun n => some (toString n.id) := by
  induction hNodes with
  | nil => rfl
  | cons hWritten _ ih => simp [attr_id_of_nodeWritten hWritten, ih]

/-- The `id` attributes of the node section are the referenced ids, in order. -/
theorem map_attr_id {nodes : List Node} {ways : List Way} {nodeEls : List Xml.Element}
    (hNodes : List.Forall₂ NodeWritten (referencedNodes nodes ways) nodeEls) :
    nodeEls.map (·.attr? "id") = (referencedIds nodes ways).map fun i => some (toString i) := by
  rw [map_attr_id_of_forall₂ hNodes, ← map_id_of_forall₂ (forall₂_referencedNodes nodes ways),
    List.map_map]
  rfl

/-- **The node section as a reader sees it.** -/
theorem nodeSection_of_written {nodes : List Node} {ways : List Way}
    {nodeEls wayEls : List Xml.Element}
    (hNodes : List.Forall₂ NodeWritten (referencedNodes nodes ways) nodeEls)
    (hWays : List.Forall₂ WayWritten ways wayEls) : NodeSection nodes nodeEls wayEls := by
  have hIds := map_attr_id hNodes
  refine ⟨?_, ?_, ?_⟩
  · -- distinct ids are written as distinct texts
    rw [hIds]
    exact (referencedIds_nodup nodes ways).map toString_injective
  · -- a node element's id is referenced by some way, whose element has the matching `nd`
    intro e he
    obtain ⟨n, hn, hWritten⟩ := exists_mem_of_forall₂_right hNodes he
    have hRef : n.id ∈ referencedIds nodes ways := by
      rw [← map_id_of_forall₂ (forall₂_referencedNodes nodes ways)]
      exact List.mem_map_of_mem hn
    obtain ⟨⟨w, hw, hIn⟩, -⟩ := (mem_referencedIds nodes ways n.id).mp hRef
    obtain ⟨we, hwe, hWay⟩ := exists_mem_of_forall₂_left hWays hw
    obtain ⟨ts, -, -, -, rfl⟩ := hWay
    refine ⟨_, hwe, refElement n.id, ?_, rfl, ?_⟩
    · exact List.mem_append_left _ (List.mem_map_of_mem hIn)
    · rw [refElement_attr, attr_id_of_nodeWritten hWritten]
  · -- an `nd` that names a known node names a referenced id, which occurs once
    intro we hwe d hd hName i hi hRefAttr
    obtain ⟨w, hw, hWay⟩ := exists_mem_of_forall₂_right hWays hwe
    obtain ⟨j, hj, rfl⟩ := nd_child_of_wayWritten hWay hd hName
    have hji : j = i := toString_injective ((refElement_attr j).symm.trans hRefAttr)
    subst hji
    have hMem : j ∈ referencedIds nodes ways := (mem_referencedIds nodes ways j).mpr ⟨⟨w, hw, hj⟩, hi⟩
    have hLen : (nodeEls.filter fun e => e.attr? "id" = some (toString j)).length =
        ((nodeEls.map (·.attr? "id")).filter fun a => a = some (toString j)).length := by
      rw [List.filter_map, List.length_map]
      rfl
    rw [hLen, hIds, List.filter_map, List.length_map]
    calc ((referencedIds nodes ways).filter ((fun a => decide (a = some (toString j))) ∘
            fun i => some (toString i))).length
        = ((referencedIds nodes ways).filter (· == j)).length := by
          congr 1
          refine List.filter_congr fun k _ => ?_
          simp only [Function.comp_apply]
          exact decide_eq_decide.mpr toString_injective.eq_iff
      _ = (referencedIds nodes ways).count j := (List.count_eq_length_filter ..).symm
      _ = 1 := List.count_eq_one_of_mem (referencedIds_nodup nodes ways) hMem

/-! ## The document -/

/-- The writer's root element: the root attributes pass the check, and the node and the way
elements are those of the selected nodes and of the ways. -/
theorem element_eq_ok_iff_written (g : String) (nodes : List Node) (ways : List Way)
    (root : Xml.Element) :
    element g nodes ways = .ok root ↔
      Xml.checkAttrs [("version", "0.6"), ("generator", g)] = .ok () ∧
      ∃ nodeEls wayEls, List.Forall₂ NodeWritten (referencedNodes nodes ways) nodeEls ∧
        List.Forall₂ WayWritten ways wayEls ∧
        root = .mk "osm" [("version", "0.6"), ("generator", g)] (nodeEls ++ wayEls) := by
  have hWritten : ∀ {xs : List Node} {es : List Xml.Element},
      xs.mapM nodeElement = .ok es ↔ List.Forall₂ NodeWritten xs es := fun {xs es} => by
    simp only [mapM_eq_ok_iff, nodeElement_eq_ok_iff]
  have hWayWritten : ∀ {es : List Xml.Element},
      ways.mapM wayElement = .ok es ↔ List.Forall₂ WayWritten ways es := fun {es} => by
    simp only [mapM_eq_ok_iff, wayElement_eq_ok_iff]
  simp only [element, bind_eq_ok_iff, hWritten, hWayWritten]
  constructor
  · rintro ⟨⟨⟩, hRoot, nodeEls, hNodes, wayEls, hWays, hPure⟩
    exact ⟨hRoot, nodeEls, wayEls, hNodes, hWays, (Except.ok.inj hPure).symm⟩
  · rintro ⟨hRoot, nodeEls, wayEls, hNodes, hWays, rfl⟩
    exact ⟨(), hRoot, nodeEls, hNodes, wayEls, hWays, rfl⟩

/-- **The layout of the document.** The writer succeeds exactly when the generator is
XML-compatible and every selected node and every way can be written; its root is then
`<osm version="0.6" generator=g>` holding the node section and then the way section, where the
node section writes, for each id the ways reference and some row carries, in order of first
reference, the last row with that id. The node section then has the properties a reader relies
on (`NodeSection`). -/
theorem element_eq_ok_iff_layout (g : String) (nodes : List Node) (ways : List Way)
    (root : Xml.Element) :
    element g nodes ways = .ok root ↔
      Xml.checkAttrs [("version", "0.6"), ("generator", g)] = .ok () ∧
      List.Forall₂ (IsLastWithId nodes) (referencedIds nodes ways) (referencedNodes nodes ways) ∧
      ∃ nodeEls wayEls, List.Forall₂ NodeWritten (referencedNodes nodes ways) nodeEls ∧
        List.Forall₂ WayWritten ways wayEls ∧ NodeSection nodes nodeEls wayEls ∧
        root = .mk "osm" [("version", "0.6"), ("generator", g)] (nodeEls ++ wayEls) := by
  rw [element_eq_ok_iff_written]
  constructor
  · rintro ⟨hRoot, nodeEls, wayEls, hNodes, hWays, hRootEq⟩
    exact ⟨hRoot, forall₂_referencedNodes nodes ways, nodeEls, wayEls, hNodes, hWays,
      nodeSection_of_written hNodes hWays, hRootEq⟩
  · rintro ⟨hRoot, -, nodeEls, wayEls, hNodes, hWays, -, hRootEq⟩
    exact ⟨hRoot, nodeEls, wayEls, hNodes, hWays, hRootEq⟩

end RoadAtlas.Document
