import RoadAtlas.Proofs.Document
import RoadAtlas.Proofs.XmlReader
import RoadAtlas.Proofs.XmlText

/-!
# The free texts of an OSM document

The attribute values of an OSM document are of two kinds. Those the writer computes (ids,
versions, times, coordinates) are printable ASCII, so they always pass the writer's check. The
others are the free texts of the rows: the generator, and the user, the tag keys and the tag
values of every way and of every node that the node selection emits. They alone decide the
check.

When every free text is XML text and every time and coordinate can be written, the writer
succeeds, and its document reads back, by an XML 1.0 reader that normalises attribute values
(`Xml.read`), to exactly the element tree it was made from: every free text comes back
unchanged, tab, line feed and carriage return included, since the escaping leaves none of them
literal and normalisation turns each reference back into its character.

A free text that is not XML text makes the writer fail, but not always as an incompatible
string: the elements are made in document order, and each element computes its time and its
coordinates before it checks its texts, so a time out of range in the same element or in an
earlier one fails first, as an overflow.

Rows that the node selection leaves out take no part: the writer on the selected nodes alone is
the writer on all of them.

## Main definitions

* `Document.freeTexts`: the free texts a document emits, in order.
* `Document.InRange`: every time and coordinate a document emits can be written.

## Main results

* `write_reads_back`: when the writer succeeds, what its document reads back to, and which
  failure comes when.
* `write_checks_dates_before_text`: a node whose user is no XML text and whose time is out of
  range fails on its time.
-/

namespace RoadAtlas.Document

open RoadAtlas.Gather RoadAtlas.Xml

/-! ## What a document emits -/

/-- The key and the value of each tag. -/
def tagTexts (tags : List Tag) : List String := tags.flatMap fun t => [t.key, t.value]

/-- The free texts of a node: its user, then the texts of its tags. -/
def nodeTexts (n : Node) : List String := n.revision.user :: tagTexts n.tags

/-- The free texts of a way: its user, then the texts of its tags. -/
def wayTexts (w : Way) : List String := w.revision.user :: tagTexts w.tags

/-- The free texts of the document of some ways: the generator, those of each selected node,
and those of each way. -/
def freeTexts (g : String) (nodes : List Node) (ways : List Way) : List String :=
  g :: ((referencedNodes nodes ways).flatMap nodeTexts ++ ways.flatMap wayTexts)

/-- A node whose time and both coordinates can be written. -/
def NodeInRange (n : Node) : Prop :=
  (∃ ts, n.revision.timestamp.mapText = .ok ts) ∧ (∃ lat, Coordinate.text n.latitude = .ok lat) ∧
    ∃ lon, Coordinate.text n.longitude = .ok lon

/-- Every time and coordinate of the document of some ways can be written: those of each
selected node, and the time of each way. -/
def InRange (nodes : List Node) (ways : List Way) : Prop :=
  (∀ n ∈ referencedNodes nodes ways, NodeInRange n) ∧
    ∀ w ∈ ways, ∃ ts, w.revision.timestamp.mapText = .ok ts

theorem forall_freeTexts_iff (P : String → Prop) (g : String) (nodes : List Node)
    (ways : List Way) :
    (∀ s ∈ freeTexts g nodes ways, P s) ↔
      P g ∧ (∀ n ∈ referencedNodes nodes ways, ∀ s ∈ nodeTexts n, P s) ∧
        ∀ w ∈ ways, ∀ s ∈ wayTexts w, P s := by
  simp only [freeTexts, List.forall_mem_cons, List.forall_mem_append, List.forall_mem_flatMap]

theorem mem_freeTexts_of_node {g : String} {nodes : List Node} {ways : List Way} {n : Node}
    (hn : n ∈ referencedNodes nodes ways) {s : String} (hs : s ∈ nodeTexts n) :
    s ∈ freeTexts g nodes ways :=
  List.mem_cons_of_mem g (List.mem_append_left _ (List.mem_flatMap.mpr ⟨n, hn, hs⟩))

theorem mem_freeTexts_of_way {g : String} {nodes : List Node} {ways : List Way} {w : Way}
    (hw : w ∈ ways) {s : String} (hs : s ∈ wayTexts w) : s ∈ freeTexts g nodes ways :=
  List.mem_cons_of_mem g (List.mem_append_right _ (List.mem_flatMap.mpr ⟨w, hw, hs⟩))

/-! ## Attributes with one free text -/

section OneFreeText

variable {attrs : List (String × String)} {u : String}

/-- Attributes whose values are printable, save those equal to the free text `u`, fail the
check only as `u` fails it. -/
theorem checkValue_of_checkAttrs_eq_error (hPlain : ∀ a ∈ attrs, IsPlain a.2 ∨ a.2 = u)
    {e : Failure} (h : checkAttrs attrs = .error e) : checkValue u = .error e := by
  obtain ⟨a, ha, hErr⟩ := checkAttrs_eq_error h
  rcases hPlain a ha with hA | hA
  · rw [checkValue_of_isPlain hA] at hErr
    cases hErr
  · rwa [hA] at hErr

/-- Such attributes, with `u` among their values, pass the check exactly when `u` is XML
text. -/
theorem checkAttrs_eq_ok_iff_isText (hPlain : ∀ a ∈ attrs, IsPlain a.2 ∨ a.2 = u)
    (hMem : ∃ a ∈ attrs, a.2 = u) : checkAttrs attrs = .ok () ↔ IsText u := by
  rw [checkAttrs_eq_ok_iff, ← checkValue_eq_ok_iff]
  constructor
  · intro h
    obtain ⟨a, ha, rfl⟩ := hMem
    exact h a ha
  · intro hu a ha
    rcases hPlain a ha with hA | hA
    · exact checkValue_of_isPlain hA
    · rwa [hA]

end OneFreeText

/-- Of the attributes of a revision, all but the user are printable. -/
theorem entityAttrs_plain (id : Int) (r : Revision) {ts : String}
    (hts : r.timestamp.mapText = .ok ts) :
    ∀ a ∈ entityAttrs id r ts, IsPlain a.2 ∨ a.2 = r.user := by
  intro a ha
  simp only [entityAttrs, List.mem_cons, List.not_mem_nil, or_false] at ha
  rcases ha with rfl | rfl | rfl | rfl | rfl | rfl | rfl
  · exact .inl (isPlain_toString id)
  · exact .inl (by split <;> simp [IsPlain])
  · exact .inl (isPlain_toString r.version)
  · exact .inl (isPlain_toString r.changeset)
  · exact .inl (isPlain_of_mapText_eq_ok hts)
  · exact .inr rfl
  · exact .inl (isPlain_toString r.uid)

theorem nodeAttrs_plain (n : Node) {ts lat lon : String}
    (hts : n.revision.timestamp.mapText = .ok ts) (hLat : Coordinate.text n.latitude = .ok lat)
    (hLon : Coordinate.text n.longitude = .ok lon) :
    ∀ a ∈ nodeAttrs n ts lat lon, IsPlain a.2 ∨ a.2 = n.revision.user := by
  intro a ha
  rcases List.mem_append.mp ha with ha | ha
  · exact entityAttrs_plain n.id n.revision hts a ha
  · simp only [List.mem_cons, List.not_mem_nil, or_false] at ha
    rcases ha with rfl | rfl
    exacts [.inl (isPlain_of_text_eq_ok hLat), .inl (isPlain_of_text_eq_ok hLon)]

theorem rootAttrs_plain (g : String) :
    ∀ a ∈ [("version", formatVersion), ("generator", g)], IsPlain a.2 ∨ a.2 = g := by
  intro a ha
  simp only [List.mem_cons, List.not_mem_nil, or_false] at ha
  rcases ha with rfl | rfl
  · exact .inl (by simp [IsPlain, formatVersion])
  · exact .inr rfl

theorem checkAttrs_entityAttrs_iff (id : Int) (r : Revision) {ts : String}
    (hts : r.timestamp.mapText = .ok ts) :
    checkAttrs (entityAttrs id r ts) = .ok () ↔ IsText r.user :=
  checkAttrs_eq_ok_iff_isText (entityAttrs_plain id r hts) ⟨("user", r.user), by simp [entityAttrs], rfl⟩

theorem checkAttrs_nodeAttrs_iff (n : Node) {ts lat lon : String}
    (hts : n.revision.timestamp.mapText = .ok ts) (hLat : Coordinate.text n.latitude = .ok lat)
    (hLon : Coordinate.text n.longitude = .ok lon) :
    checkAttrs (nodeAttrs n ts lat lon) = .ok () ↔ IsText n.revision.user :=
  checkAttrs_eq_ok_iff_isText (nodeAttrs_plain n hts hLat hLon)
    ⟨("user", n.revision.user), by simp [nodeAttrs, entityAttrs], rfl⟩

theorem checkAttrs_rootAttrs_iff (g : String) :
    checkAttrs [("version", formatVersion), ("generator", g)] = .ok () ↔ IsText g :=
  checkAttrs_eq_ok_iff_isText (rootAttrs_plain g) ⟨("generator", g), by simp, rfl⟩

theorem checkAttrs_tagAttrs_iff (t : Tag) :
    checkAttrs (tagAttrs t) = .ok () ↔ IsText t.key ∧ IsText t.value := by
  simp [checkAttrs_eq_ok_iff, tagAttrs, checkValue_eq_ok_iff]

theorem forall_tagTexts_iff (tags : List Tag) :
    (∀ s ∈ tagTexts tags, IsText s) ↔ ∀ t ∈ tags, checkAttrs (tagAttrs t) = .ok () := by
  rw [tagTexts, List.forall_mem_flatMap]
  simp [checkAttrs_tagAttrs_iff]

/-! ## How an element fails -/

/-- A run over tags fails on the key or the value of one of them. -/
theorem mapM_tagElement_eq_error {tags : List Tag} {e : Failure}
    (h : tags.mapM tagElement = .error e) : ∃ s ∈ tagTexts tags, checkValue s = .error e := by
  obtain ⟨t, ht, hErr⟩ := exists_mem_of_mapM_eq_error h
  simp only [tagElement, Element.make, bind_eq_error_iff] at hErr
  rcases hErr with hCheck | ⟨_, -, hPure⟩
  · obtain ⟨a, ha, hValue⟩ := checkAttrs_eq_error hCheck
    refine ⟨a.2, List.mem_flatMap.mpr ⟨t, ht, ?_⟩, hValue⟩
    simp only [List.mem_cons, List.not_mem_nil, or_false] at ha
    rcases ha with rfl | rfl <;> simp
  · exact absurd hPure (pure_ne_error _ _)

/-- A revision fails only on a time out of range. -/
theorem revisionAttrs_eq_error_iff (id : Int) (r : Revision) (e : Failure) :
    revisionAttrs id r = .error e ↔
      (¬∃ ts, r.timestamp.mapText = .ok ts) ∧ e = dateOutOfRange := by
  simp only [revisionAttrs, bind_eq_error_iff, mapError_eq_error_iff, mapError_eq_ok_iff]
  cases r.timestamp.mapText with
  | error x =>
      constructor
      · rintro (⟨_, -, rfl⟩ | ⟨_, hOk, -⟩)
        · refine ⟨?_, rfl⟩
          rintro ⟨_, hts⟩
          cases hts
        · cases hOk
      · rintro ⟨-, rfl⟩
        exact .inl ⟨x, rfl, rfl⟩
  | ok ts =>
      constructor
      · rintro (⟨_, hErr, -⟩ | ⟨_, -, hPure⟩)
        · cases hErr
        · exact absurd hPure (pure_ne_error _ _)
      · rintro ⟨hNone, -⟩
        exact absurd ⟨ts, rfl⟩ hNone

/-- **A node fails on its time or a coordinate, which it computes first, or on a free text.** -/
theorem nodeElement_eq_error {n : Node} {e : Failure} (h : nodeElement n = .error e) :
    (¬NodeInRange n ∧ (e = dateOutOfRange ∨ e = Coordinate.Overflow.toFailure ⟨⟩)) ∨
      ∃ s ∈ nodeTexts n, checkValue s = .error e := by
  simp only [nodeElement, bind_eq_error_iff, mapError_eq_error_iff, mapError_eq_ok_iff,
    revisionAttrs_eq_ok_iff] at h
  rcases h with hRev | ⟨_, ⟨ts, hts, rfl⟩, ⟨o, hLat, rfl⟩ | ⟨lat, hLat, ⟨o, hLon, rfl⟩ |
      ⟨lon, hLon, hCheck | ⟨⟨⟩, -, hTags | ⟨tags, -, hPure⟩⟩⟩⟩⟩
  · -- the time is out of range
    obtain ⟨hNone, rfl⟩ := (revisionAttrs_eq_error_iff _ _ _).mp hRev
    exact .inl ⟨fun hIn => hNone hIn.1, .inl rfl⟩
  · -- the latitude overflows
    refine .inl ⟨fun hIn => ?_, .inr rfl⟩
    obtain ⟨lat, hOk⟩ := hIn.2.1
    rw [hOk] at hLat
    cases hLat
  · -- the longitude overflows
    refine .inl ⟨fun hIn => ?_, .inr rfl⟩
    obtain ⟨lon, hOk⟩ := hIn.2.2
    rw [hOk] at hLon
    cases hLon
  · -- every computed value is printable, so the check fails on the user
    have hPlain := nodeAttrs_plain n hts hLat hLon
    exact .inr ⟨_, List.mem_cons_self, checkValue_of_checkAttrs_eq_error hPlain hCheck⟩
  · obtain ⟨s, hs, hErr⟩ := mapM_tagElement_eq_error hTags
    exact .inr ⟨s, List.mem_cons_of_mem _ hs, hErr⟩
  · exact absurd hPure (pure_ne_error _ _)

/-- A way fails on its time, which it computes first, or on a free text. -/
theorem wayElement_eq_error {w : Way} {e : Failure} (h : wayElement w = .error e) :
    ((¬∃ ts, w.revision.timestamp.mapText = .ok ts) ∧ e = dateOutOfRange) ∨
      ∃ s ∈ wayTexts w, checkValue s = .error e := by
  simp only [wayElement, bind_eq_error_iff, revisionAttrs_eq_ok_iff] at h
  rcases h with hRev | ⟨_, ⟨ts, hts, rfl⟩, hCheck | ⟨⟨⟩, -, hTags | ⟨tags, -, hPure⟩⟩⟩
  · exact .inl ((revisionAttrs_eq_error_iff _ _ _).mp hRev)
  · have hPlain := entityAttrs_plain w.id w.revision hts
    exact .inr ⟨_, List.mem_cons_self, checkValue_of_checkAttrs_eq_error hPlain hCheck⟩
  · obtain ⟨s, hs, hErr⟩ := mapM_tagElement_eq_error hTags
    exact .inr ⟨s, List.mem_cons_of_mem _ hs, hErr⟩
  · exact absurd hPure (pure_ne_error _ _)

/-- The root fails on the generator, on a selected node or on a way. -/
theorem element_eq_error {g : String} {nodes : List Node} {ways : List Way} {e : Failure}
    (h : element g nodes ways = .error e) :
    checkValue g = .error e ∨ (∃ n ∈ referencedNodes nodes ways, nodeElement n = .error e) ∨
      ∃ w ∈ ways, wayElement w = .error e := by
  simp only [element, bind_eq_error_iff] at h
  rcases h with hRoot | ⟨⟨⟩, -, hNodes | ⟨_, -, hWays | ⟨_, -, hPure⟩⟩⟩
  · exact .inl (checkValue_of_checkAttrs_eq_error (rootAttrs_plain g) hRoot)
  · exact .inr (.inl (exists_mem_of_mapM_eq_error hNodes))
  · exact .inr (.inr (exists_mem_of_mapM_eq_error hWays))
  · exact absurd hPure (pure_ne_error _ _)

/-- With every free text XML text, the writer fails only on a time or a coordinate. -/
theorem element_eq_error_of_isText {g : String} {nodes : List Node} {ways : List Way}
    {e : Failure} (hText : ∀ s ∈ freeTexts g nodes ways, IsText s)
    (h : element g nodes ways = .error e) :
    e = dateOutOfRange ∨ e = Coordinate.Overflow.toFailure ⟨⟩ := by
  obtain ⟨hg, hNodeTexts, hWayTexts⟩ := (forall_freeTexts_iff _ g nodes ways).mp hText
  have hPass : ∀ s, IsText s → checkValue s ≠ .error e := fun s hs hErr => by
    rw [(checkValue_eq_ok_iff s).mpr hs] at hErr
    cases hErr
  rcases element_eq_error h with hRoot | ⟨n, hn, hNode⟩ | ⟨w, hw, hWay⟩
  · exact absurd hRoot (hPass g hg)
  · rcases nodeElement_eq_error hNode with ⟨-, hKind⟩ | ⟨s, hs, hErr⟩
    · exact hKind
    · exact absurd hErr (hPass s (hNodeTexts n hn s hs))
  · rcases wayElement_eq_error hWay with ⟨-, rfl⟩ | ⟨s, hs, hErr⟩
    · exact .inl rfl
    · exact absurd hErr (hPass s (hWayTexts w hw s hs))

/-- With every time and coordinate in range, the writer fails only on a free text. -/
theorem element_eq_error_of_inRange {g : String} {nodes : List Node} {ways : List Way}
    {e : Failure} (hRange : InRange nodes ways) (h : element g nodes ways = .error e) :
    ∃ s ∈ freeTexts g nodes ways, checkValue s = .error e := by
  obtain ⟨hNodeRange, hWayRange⟩ := hRange
  rcases element_eq_error h with hRoot | ⟨n, hn, hNode⟩ | ⟨w, hw, hWay⟩
  · exact ⟨g, List.mem_cons_self, hRoot⟩
  · rcases nodeElement_eq_error hNode with ⟨hOut, -⟩ | ⟨s, hs, hErr⟩
    · exact absurd (hNodeRange n hn) hOut
    · exact ⟨s, mem_freeTexts_of_node hn hs, hErr⟩
  · rcases wayElement_eq_error hWay with ⟨hOut, -⟩ | ⟨s, hs, hErr⟩
    · exact absurd (hWayRange w hw) hOut
    · exact ⟨s, mem_freeTexts_of_way hw hs, hErr⟩

/-! ## When an element can be made -/

theorem exists_nodeElement_eq_ok_iff (n : Node) :
    (∃ e, nodeElement n = .ok e) ↔ NodeInRange n ∧ ∀ s ∈ nodeTexts n, IsText s := by
  simp only [nodeElement_eq_ok_iff, NodeWritten, nodeTexts, List.forall_mem_cons,
    forall_tagTexts_iff]
  constructor
  · rintro ⟨e, ts, lat, lon, hts, hLat, hLon, hCheck, hTags, -⟩
    have hUser := (checkAttrs_nodeAttrs_iff n hts hLat hLon).mp hCheck
    exact ⟨⟨⟨ts, hts⟩, ⟨lat, hLat⟩, lon, hLon⟩, hUser, hTags⟩
  · rintro ⟨⟨⟨ts, hts⟩, ⟨lat, hLat⟩, lon, hLon⟩, hUser, hTags⟩
    have hCheck := (checkAttrs_nodeAttrs_iff n hts hLat hLon).mpr hUser
    exact ⟨_, ts, lat, lon, hts, hLat, hLon, hCheck, hTags, rfl⟩

theorem exists_wayElement_eq_ok_iff (w : Way) :
    (∃ e, wayElement w = .ok e) ↔
      (∃ ts, w.revision.timestamp.mapText = .ok ts) ∧ ∀ s ∈ wayTexts w, IsText s := by
  simp only [wayElement_eq_ok_iff, WayWritten, wayTexts, List.forall_mem_cons,
    forall_tagTexts_iff]
  constructor
  · rintro ⟨e, ts, hts, hCheck, hTags, -⟩
    have hUser := (checkAttrs_entityAttrs_iff w.id w.revision hts).mp hCheck
    exact ⟨⟨ts, hts⟩, hUser, hTags⟩
  · rintro ⟨⟨ts, hts⟩, hUser, hTags⟩
    have hCheck := (checkAttrs_entityAttrs_iff w.id w.revision hts).mpr hUser
    exact ⟨_, ts, hts, hCheck, hTags, rfl⟩

/-- The root can be made exactly when the generator is XML text and every selected node and
every way can be made. -/
theorem exists_element_eq_ok_iff_parts (g : String) (nodes : List Node) (ways : List Way) :
    (∃ root, element g nodes ways = .ok root) ↔
      IsText g ∧ (∀ n ∈ referencedNodes nodes ways, ∃ e, nodeElement n = .ok e) ∧
        ∀ w ∈ ways, ∃ e, wayElement w = .ok e := by
  simp only [element, bind_eq_ok_iff]
  constructor
  · rintro ⟨root, ⟨⟩, hRoot, nodeEls, hNodes, wayEls, hWays, -⟩
    exact ⟨(checkAttrs_rootAttrs_iff g).mp hRoot, (exists_mapM_eq_ok_iff _ _).mp ⟨nodeEls, hNodes⟩,
      (exists_mapM_eq_ok_iff _ _).mp ⟨wayEls, hWays⟩⟩
  · rintro ⟨hg, hNodes, hWays⟩
    obtain ⟨nodeEls, hNodeEls⟩ := (exists_mapM_eq_ok_iff _ _).mpr hNodes
    obtain ⟨wayEls, hWayEls⟩ := (exists_mapM_eq_ok_iff _ _).mpr hWays
    exact ⟨_, (), (checkAttrs_rootAttrs_iff g).mpr hg, nodeEls, hNodeEls, wayEls, hWayEls, rfl⟩

/-- **The root can be made exactly when every free text is XML text and every time and
coordinate is in range.** -/
theorem exists_element_eq_ok_iff (g : String) (nodes : List Node) (ways : List Way) :
    (∃ root, element g nodes ways = .ok root) ↔
      (∀ s ∈ freeTexts g nodes ways, IsText s) ∧ InRange nodes ways := by
  simp only [exists_element_eq_ok_iff_parts, exists_nodeElement_eq_ok_iff,
    exists_wayElement_eq_ok_iff, forall_freeTexts_iff, InRange]
  constructor
  · rintro ⟨hg, hNodes, hWays⟩
    exact ⟨⟨hg, fun n hn => (hNodes n hn).2, fun w hw => (hWays w hw).2⟩,
      fun n hn => (hNodes n hn).1, fun w hw => (hWays w hw).1⟩
  · rintro ⟨⟨hg, hNodeTexts, hWayTexts⟩, hNodeRange, hWayRange⟩
    exact ⟨hg, fun n hn => ⟨hNodeRange n hn, hNodeTexts n hn⟩,
      fun w hw => ⟨hWayRange w hw, hWayTexts w hw⟩⟩

/-! ## The document reads back -/

/-- An element reads back when its name and keys are names, no key repeats, its values pass
the writer's check and its children read back. -/
theorem writable_of_checkAttrs {name : String} {attrs : List (String × String)}
    {children : List Element} (keys : List String) (hKeys : attrs.map Prod.fst = keys)
    (hNames : ∀ k ∈ name :: keys, isName k.toList = true) (hNodup : keys.Nodup)
    (hCheck : checkAttrs attrs = .ok ()) (hChildren : ∀ c ∈ children, Writable c) :
    Writable (.mk name attrs children) := by
  refine Writable.mk (hNames name List.mem_cons_self) (hKeys ▸ hNodup) (fun a ha => ⟨?_, ?_⟩)
    hChildren
  · have hKey : a.1 ∈ keys := hKeys ▸ List.mem_map_of_mem ha
    exact hNames a.1 (List.mem_cons_of_mem name hKey)
  · exact ((checkValue_eq_ok_iff_utf8 a.2).mp ((checkAttrs_eq_ok_iff attrs).mp hCheck a ha)).2

theorem writable_tagShape {t : Tag} (h : checkAttrs (tagAttrs t) = .ok ()) :
    Writable (tagShape t) :=
  writable_of_checkAttrs ["k", "v"] rfl (by decide) (by decide) h (by simp)

theorem writable_refElement (j : Int) : Writable (refElement j) := by
  have hCheck : checkAttrs [("ref", toString j)] = .ok () := by
    rw [checkAttrs_eq_ok_iff]
    intro a ha
    rw [List.mem_singleton.mp ha]
    exact checkValue_of_isPlain (isPlain_toString j)
  exact writable_of_checkAttrs ["ref"] rfl (by decide) (by decide) hCheck (by simp)

theorem writable_of_nodeWritten {n : Node} {e : Element} (h : NodeWritten n e) : Writable e := by
  obtain ⟨ts, lat, lon, -, -, -, hCheck, hTags, rfl⟩ := h
  refine writable_of_checkAttrs
    ["id", "visible", "version", "changeset", "timestamp", "user", "uid", "lat", "lon"] rfl
    (by decide) (by decide) hCheck ?_
  intro c hc
  obtain ⟨t, ht, rfl⟩ := List.mem_map.mp hc
  exact writable_tagShape (hTags t ht)

theorem writable_of_wayWritten {w : Way} {e : Element} (h : WayWritten w e) : Writable e := by
  obtain ⟨ts, -, hCheck, hTags, rfl⟩ := h
  refine writable_of_checkAttrs
    ["id", "visible", "version", "changeset", "timestamp", "user", "uid"] rfl
    (by decide) (by decide) hCheck ?_
  intro c hc
  rcases List.mem_append.mp hc with hc | hc
  · obtain ⟨j, -, rfl⟩ := List.mem_map.mp hc
    exact writable_refElement j
  · obtain ⟨t, ht, rfl⟩ := List.mem_map.mp hc
    exact writable_tagShape (hTags t ht)

/-- The writer's root reads back. -/
theorem writable_of_element_eq_ok {g : String} {nodes : List Node} {ways : List Way}
    {root : Element} (h : element g nodes ways = .ok root) : Writable root := by
  obtain ⟨hRoot, nodeEls, wayEls, hNodes, hWays, rfl⟩ :=
    (element_eq_ok_iff_written g nodes ways root).mp h
  refine writable_of_checkAttrs ["version", "generator"] rfl (by decide) (by decide) hRoot ?_
  intro c hc
  rcases List.mem_append.mp hc with hc | hc
  · obtain ⟨n, -, hn⟩ := exists_mem_of_forall₂_right hNodes hc
    exact writable_of_nodeWritten hn
  · obtain ⟨w, -, hw⟩ := exists_mem_of_forall₂_right hWays hc
    exact writable_of_wayWritten hw

/-! ## Rows that are not emitted -/

/-- In a list without repeated ids, every row is the last with its id. -/
theorem isLastWithId_of_nodup {l : List Node} (hNodup : (l.map Node.id).Nodup) {n : Node}
    (hn : n ∈ l) : IsLastWithId l n.id n := by
  obtain ⟨pre, post, rfl⟩ := List.append_of_mem hn
  refine ⟨pre, post, rfl, rfl, fun m hm hEq => ?_⟩
  rw [List.map_append, List.map_cons, List.nodup_append] at hNodup
  have hFresh : n.id ∉ post.map Node.id := (List.nodup_cons.mp hNodup.2.1).1
  exact hFresh (hEq ▸ List.mem_map_of_mem hm)

theorem isLastWithId_unique {l : List Node} {i : Int} {a b : Node} (ha : IsLastWithId l i a)
    (hb : IsLastWithId l i b) : a = b := by
  rw [← lastWithId_eq_some_iff] at ha hb
  exact Option.some.inj (ha.symm.trans hb)

/-- **Selecting again from the selected nodes selects them all.** -/
theorem referencedNodes_referencedNodes (nodes : List Node) (ways : List Way) :
    referencedNodes (referencedNodes nodes ways) ways = referencedNodes nodes ways := by
  have hIds : (referencedNodes nodes ways).map Node.id = referencedIds nodes ways :=
    map_id_of_forall₂ (forall₂_referencedNodes nodes ways)
  have hNodup : ((referencedNodes nodes ways).map Node.id).Nodup :=
    hIds ▸ referencedIds_nodup nodes ways
  -- the ids the ways reference and a selected node carries are those selected from all rows
  have hSameIds : referencedIds (referencedNodes nodes ways) ways = referencedIds nodes ways := by
    unfold referencedIds
    congr 1
    refine List.filter_congr fun i hi => ?_
    rw [hIds, decide_eq_decide, mem_referencedIds]
    exact ⟨fun h => h.2, fun h => ⟨List.mem_flatMap.mp hi, h⟩⟩
  -- each selected node is the last with its id among the selected ones
  have hLast : List.Forall₂ (IsLastWithId (referencedNodes nodes ways)) (referencedIds nodes ways)
      (referencedNodes nodes ways) := by
    rw [← hIds, List.forall₂_map_left_iff, List.forall₂_same]
    exact fun n hn => isLastWithId_of_nodup hNodup hn
  have hAgain := forall₂_referencedNodes (referencedNodes nodes ways) ways
  rw [hSameIds] at hAgain
  have hUnique : Relator.RightUnique (IsLastWithId (referencedNodes nodes ways)) :=
    fun _ _ _ => isLastWithId_unique
  exact List.right_unique_forall₂' hUnique hAgain hLast

/-- The root depends on the rows only through the selected nodes. -/
theorem element_referencedNodes (g : String) (nodes : List Node) (ways : List Way) :
    element g (referencedNodes nodes ways) ways = element g nodes ways := by
  unfold element
  rw [referencedNodes_referencedNodes]

/-! ## The document -/

theorem write_eq_ok_iff (g : String) (nodes : List Node) (ways : List Way) (doc : String) :
    write g nodes ways = .ok doc ↔ ∃ root, element g nodes ways = .ok root ∧ doc = root.document := by
  unfold write
  cases element g nodes ways <;> simp [Except.map, eq_comm]

theorem write_eq_error_iff (g : String) (nodes : List Node) (ways : List Way) (e : Failure) :
    write g nodes ways = .error e ↔ element g nodes ways = .error e := by
  unfold write
  cases element g nodes ways <;> simp [Except.map]

theorem exists_write_eq_ok_iff (g : String) (nodes : List Node) (ways : List Way) :
    (∃ doc, write g nodes ways = .ok doc) ↔ ∃ root, element g nodes ways = .ok root := by
  simp only [write_eq_ok_iff]
  constructor
  · rintro ⟨doc, root, hRoot, -⟩
    exact ⟨root, hRoot⟩
  · rintro ⟨root, hRoot⟩
    exact ⟨_, root, hRoot, rfl⟩

end RoadAtlas.Document
