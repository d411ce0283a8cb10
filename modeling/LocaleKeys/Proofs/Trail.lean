import LocaleKeys.Proofs.WalkSteps

/-!
# Proofs: trails

The walk through a file as a list of visits, each with the visits around it. An index numbers
namespaces and callbacks while it goes through an outline, and hands the caller of the code down;
along the trails these numbers and callers can be told for each visit by itself.
-/

namespace LocaleKeys.Outline

open Ast

namespace Visit

/-- The namespace in which the code after a visit stands. -/
def spaceAfter (settings : Settings) (outer : Space) (x : Visit) : Space :=
  if x.opens then outer.within (spaceOf settings x.node) else outer

/-- A visit opens a namespace or none, with what is found after it, and then come those that are
opened there. -/
theorem contextsAll_eq (settings : Settings) (outer : Space) (x : Visit) :
    let body := (x.next settings).flatMap (outline settings)
    Item.contextsAll outer (x.outline settings) =
      (if x.opens then [Context.ofBody (x.spaceAfter settings outer) body] else []) ++
        Item.contextsAll (x.spaceAfter settings outer) body := by
  intro body
  rw [outline_eq]
  cases x.shape settings with
  | space hopens _ hframe =>
    rw [hframe, Frame.wrap, Item.contextsAll, Item.contexts, Item.contextsAll]
    simp [spaceAfter, hopens, body]
  | callback r hopens _ hframe =>
    rw [hframe]
    simp [Frame.wrap, Item.contextsAll, Item.contexts, spaceAfter, hopens, body]
  | owned o hopens _ _ _ hframe =>
    rw [hframe]
    simp [Frame.wrap, Item.contextsAll, Item.contexts, spaceAfter, hopens, body]
  | after items hopens _ hflat hframe =>
    rw [hframe, Frame.wrap, Item.contextsAll_append, Item.contextsAll_of_isFlat hflat]
    simp [spaceAfter, hopens, body]

end Visit

/-- A visit with the visits around it, the innermost first. Each has its number among the visits
that follow the one around it, which tells it apart from the others. -/
abbrev Trail := List (Nat × Visit)

namespace Trail

/-! ## The walk as a list -/

/-- The trails of a visit and of those after it, in the order of the walk. -/
def through (settings : Settings) (around : Trail) (number : Nat) (x : Visit) : List Trail :=
  ((number, x) :: around) ::
    (x.next settings).zipIdx.attach.flatMap fun y =>
      through settings ((number, x) :: around) y.1.2 y.1.1
termination_by x.size
decreasing_by exact Visit.size_lt_of_mem_next (List.fst_mem_of_mem_zipIdx y.2)

theorem through_eq (settings : Settings) (around : Trail) (number : Nat) (x : Visit) :
    through settings around number x =
      ((number, x) :: around) ::
        (x.next settings).zipIdx.flatMap fun y =>
          through settings ((number, x) :: around) y.2 y.1 := by
  rw [through, List.flatMap_subtype (g := fun y => through settings ((number, x) :: around) y.2 y.1)
    fun _ _ => rfl, List.unattach_attach]

/-- The trails of a file. -/
def walk (settings : Settings) (root : Node) : List Trail :=
  through settings [] 0 (.file root)

/-- The numbers of a trail, which tell where in a file it is. -/
def way (t : Trail) : List Nat := t.map (·.1)

theorem exists_of_mem_through {settings : Settings} {around t : Trail} {number : Nat} {x : Visit}
    (h : t ∈ through settings around number x) : ∃ inner, t = inner ++ (number, x) :: around := by
  induction x using Visit.induct settings generalizing around number with
  | h x ih =>
    rw [through_eq] at h
    rcases List.mem_cons.mp h with rfl | h
    · exact ⟨[], rfl⟩
    · obtain ⟨y, hy, ht⟩ := List.mem_flatMap.mp h
      obtain ⟨inner, rfl⟩ := ih y.1 (List.fst_mem_of_mem_zipIdx hy) ht
      exact ⟨inner ++ [(y.2, y.1)], by simp⟩

/-- No two trails of a walk have the same numbers. -/
theorem nodup_ways (settings : Settings) (around : Trail) (number : Nat) (x : Visit) :
    ((through settings around number x).map way).Nodup := by
  induction x using Visit.induct settings generalizing around number with
  | h x ih =>
    rw [through_eq, List.map_cons, List.map_flatMap, List.nodup_cons]
    constructor
    · intro hmem
      obtain ⟨y, -, hway⟩ := List.mem_flatMap.mp hmem
      obtain ⟨t, ht, heq⟩ := List.mem_map.mp hway
      obtain ⟨inner, rfl⟩ := exists_of_mem_through ht
      have hlength := congrArg List.length heq
      simp only [way, List.length_map, List.length_append, List.length_cons] at hlength
      omega
    · refine List.nodup_flatMap.mpr
        ⟨fun y hy => ih y.1 (List.fst_mem_of_mem_zipIdx hy) _ _, ?_⟩
      -- Trails through different visits have different numbers at the same depth.
      have hnumbers : (x.next settings).zipIdx.Pairwise fun a b => a.2 ≠ b.2 := by
        refine List.pairwise_map.mp ?_
        rw [List.zipIdx_map_snd]
        exact List.nodup_range'
      refine hnumbers.imp fun hne w hw hw' => hne ?_
      obtain ⟨t, ht, rfl⟩ := List.mem_map.mp hw
      obtain ⟨t', ht', heq⟩ := List.mem_map.mp hw'
      obtain ⟨inner, rfl⟩ := exists_of_mem_through ht
      obtain ⟨inner', rfl⟩ := exists_of_mem_through ht'
      simp only [way, List.map_append, List.map_cons] at heq
      have htails := (List.append_inj' heq rfl).2
      exact (List.cons.inj htails).1.symm

/-! ## The index along the walk -/

/-- Does a trail end at a class or module? -/
def isOpening (t : Trail) : Bool := t.head?.any (·.2.opens)

/-- The trail of the innermost class or module that a trail ends at or goes through. Without one it
is empty, which stands for the file. -/
def space (t : Trail) : Trail := t.dropWhile fun v => !v.2.opens

/-- The number of a call that registers a callback among those of its body. -/
def callbackNumber (settings : Settings) : Trail → Nat
  | (number, _) :: (_, body) :: _ =>
    ((body.next settings).take number).countP fun y => (y.registration? settings).isSome
  | _ => 0

/-- Who makes the calls in the code after a trail. -/
def owner (settings : Settings) : Trail → Option Caller
  | [] => none
  | (number, x) :: around =>
    match x.frame settings with
    | .space _ => none
    | .owned o => Item.callerOf (callbackNumber settings ((number, x) :: around)) o
    | .after _ => owner settings around

/-- The sites at the end of a trail, where namespaces are numbered by `num`. -/
def placed (settings : Settings) (num : Trail → Nat) : Trail → List Placed
  | [] => []
  | (_, x) :: around =>
    (x.frame settings).sites.map fun s => ⟨num (space around), owner settings around, s⟩

/-- The namespace in which the code after a trail stands. -/
def spaceAt (settings : Settings) : Trail → Space
  | [] => Space.root
  | (_, x) :: around =>
    if x.opens then (spaceAt settings around).within (spaceOf settings x.node)
    else spaceAt settings around

/-- The namespace that a trail opens, with what is found in it. The empty trail stands for the
file. -/
def context (settings : Settings) (root : Node) : Trail → Context
  | [] => Context.ofBody Space.root (Outline.ofTree settings root)
  | (number, x) :: around =>
    Context.ofBody (spaceAt settings ((number, x) :: around))
      ((x.next settings).flatMap (Visit.outline settings))

theorem space_of_opens {number : Nat} {x : Visit} {around : Trail} (h : x.opens = true) :
    space ((number, x) :: around) = (number, x) :: around := by
  simp [space, h]

theorem space_of_not_opens {number : Nat} {x : Visit} {around : Trail} (h : x.opens = false) :
    space ((number, x) :: around) = space around := by
  simp [space, h]

/-- The openings of a visit are itself, if it is one, and those of the visits after it. -/
theorem filter_through (settings : Settings) (around : Trail) (number : Nat) (x : Visit) :
    (through settings around number x).filter isOpening =
      (if x.opens then [(number, x) :: around] else []) ++
        (x.next settings).zipIdx.flatMap fun y =>
          (through settings ((number, x) :: around) y.2 y.1).filter isOpening := by
  rw [through_eq, List.filter_cons, List.filter_flatMap]
  cases h : x.opens <;> simp [isOpening, h]

theorem flatMap_zipIdx {α β : Type} (xs : List α) (f : α → List β) :
    (xs.zipIdx.flatMap fun y => f y.1) = xs.flatMap f := by
  rw [← List.flatMap_map, List.zipIdx_map_fst]

theorem contextsAll_flatMap (settings : Settings) (outer : Space) (ys : List Visit) :
    Item.contextsAll outer (ys.flatMap (Visit.outline settings)) =
      ys.flatMap fun y => Item.contextsAll outer (y.outline settings) := by
  induction ys with
  | nil => rfl
  | cons y ys ih => rw [List.flatMap_cons, List.flatMap_cons, Item.contextsAll_append, ih]

/-- Every opening gives one namespace, with what is found in its body. -/
theorem contextsAll_outline (settings : Settings) (root : Node) (around : Trail) (number : Nat)
    (x : Visit) :
    Item.contextsAll (spaceAt settings around) (x.outline settings) =
      ((through settings around number x).filter isOpening).map (context settings root) := by
  induction x using Visit.induct settings generalizing around number with
  | h x ih =>
    have hnext : Item.contextsAll (spaceAt settings ((number, x) :: around))
          ((x.next settings).flatMap (Visit.outline settings)) =
        ((x.next settings).zipIdx.flatMap fun y =>
          (through settings ((number, x) :: around) y.2 y.1).filter isOpening).map
            (context settings root) := by
      rw [contextsAll_flatMap, List.map_flatMap, ← flatMap_zipIdx]
      exact List.flatMap_congr fun y hy => ih y.1 (List.fst_mem_of_mem_zipIdx hy) _ _
    have hafter : spaceAt settings ((number, x) :: around) =
        x.spaceAfter settings (spaceAt settings around) := rfl
    rw [Visit.contextsAll_eq, filter_through, List.map_append, ← hnext, hafter]
    cases x.opens <;> rfl

theorem spaceCountAll_outline (settings : Settings) (around : Trail) (number : Nat) (x : Visit) :
    Item.spaceCountAll (x.outline settings) =
      ((through settings around number x).filter isOpening).length := by
  rw [← Item.length_contextsAll (spaceAt settings around),
    contextsAll_outline settings x.node around number, List.length_map]

/-- The number of callbacks that come before the visits after a visit. -/
def CallbacksBefore (settings : Settings) (t : Trail) (x : Visit) (callbacks : Nat) : Prop :=
  ((x.registration? settings).isSome = true → callbacks = callbackNumber settings t) ∧
    (x.standing = .statements .body → callbacks = 0)

/-- The sites of visits that follow the same one. -/
theorem sitesAll_flatMap {settings : Settings} {num : Trail → Nat} {t : Trail}
    (ys : List Visit) (first spaces callbacks : Nat)
    (ih : ∀ y ∈ ys, ∀ number spaces callbacks,
      (∀ j s, ((through settings t number y).filter isOpening)[j]? = some s → num s = spaces + j) →
      CallbacksBefore settings ((number, y) :: t) y callbacks →
      Item.sitesAll (num (space t)) spaces callbacks (owner settings t) (y.outline settings) =
        (through settings t number y).flatMap (placed settings num))
    (hnum : ∀ j s, ((ys.zipIdx first).flatMap fun y =>
      (through settings t y.2 y.1).filter isOpening)[j]? = some s → num s = spaces + j)
    (hcallbacks : ∀ j y, ys[j]? = some y → CallbacksBefore settings ((first + j, y) :: t) y
      (callbacks +
        (Item.registrationsAll ((ys.take j).flatMap (Visit.outline settings))).length)) :
    Item.sitesAll (num (space t)) spaces callbacks (owner settings t)
        (ys.flatMap (Visit.outline settings)) =
      (ys.zipIdx first).flatMap fun y =>
        (through settings t y.2 y.1).flatMap (placed settings num) := by
  induction ys generalizing first spaces callbacks with
  | nil => rfl
  | cons y ys ihys =>
    rw [List.zipIdx_cons, List.flatMap_cons] at hnum
    rw [List.zipIdx_cons, List.flatMap_cons, List.flatMap_cons, Item.sitesAll_append]
    congr 1
    · refine ih y List.mem_cons_self first spaces callbacks (fun j s hj => hnum j s ?_)
        (hcallbacks 0 y rfl)
      rw [List.getElem?_append_left (List.getElem?_eq_some_iff.mp hj).1]
      exact hj
    · refine ihys (first + 1) _ _ (fun z hz => ih z (List.mem_cons_of_mem y hz)) (fun j s hj => ?_)
        fun j z hz => ?_
      · have hlater := hnum (j + ((through settings t first y).filter isOpening).length) s (by
          rw [List.getElem?_append_right (Nat.le_add_left _ _), Nat.add_sub_cancel]
          exact hj)
        rw [hlater, spaceCountAll_outline settings t first]
        omega
      · have hlater := hcallbacks (j + 1) z hz
        rw [List.take_succ_cons, List.flatMap_cons, Item.registrationsAll_append,
          List.length_append, ← Nat.add_assoc callbacks] at hlater
        rwa [Nat.add_assoc first, Nat.add_comm 1 j]

/-- In a body, where counting starts anew, every callback comes after those before it. -/
theorem callbacksBefore_next {settings : Settings} {around : Trail} {number callbacks : Nat}
    {x : Visit} (hzero : x.opens = true ∨ x.standing = .statements .body → callbacks = 0)
    {j : Nat} {y : Visit} (hj : (x.next settings)[j]? = some y) :
    CallbacksBefore settings ((0 + j, y) :: (number, x) :: around) y
      (callbacks + (Item.registrationsAll
        (((x.next settings).take j).flatMap (Visit.outline settings))).length) := by
  have hmem : y ∈ x.next settings := List.mem_of_getElem? hj
  have hbody : y.standing = .code .body ∨ y.standing = .statements .body →
      x.opens = true ∨ x.standing = .statements .body := by
    intro hy
    by_contra hx
    obtain ⟨hopens, hstatements⟩ := not_or.mp hx
    obtain ⟨hcode, hstatements'⟩ :=
      Visit.not_member_of_mem_next (Bool.eq_false_iff.mpr hopens) hstatements hmem
    exact hy.elim hcode hstatements'
  constructor
  · intro hregistration
    have hcode : y.standing = .code .body := by
      by_contra h
      rw [Visit.registration?_eq_none h] at hregistration
      cases hregistration
    have hx := hbody (Or.inl hcode)
    rw [hzero hx, Visit.registrationsAll_members (Visit.standing_of_mem_take_next hx hj),
      List.length_filterMap_eq_countP, callbackNumber, Nat.zero_add, Nat.zero_add]
  · intro hstatements
    have hx := hbody (Or.inr hstatements)
    have hopens : x.opens = true :=
      (Visit.follows_of_mem_next hmem).of_statements_body hstatements
    rcases Visit.body_or_members settings hopens with ⟨b, hnext⟩ | hmembers
    · have hfirst : j = 0 := by
        have hlt := (List.getElem?_eq_some_iff.mp hj).1
        rw [hnext, List.length_singleton] at hlt
        omega
      rw [hzero hx, hfirst]
      rfl
    · rw [hmembers y hmem] at hstatements
      cases hstatements

/-- Every site has the number of the innermost namespace around it and the caller that is handed
down to it. -/
theorem sitesAll_outline {settings : Settings} {num : Trail → Nat} (x : Visit) (around : Trail)
    (number spaces callbacks : Nat)
    (hnum : ∀ j s, ((through settings around number x).filter isOpening)[j]? = some s →
      num s = spaces + j)
    (hcallbacks : CallbacksBefore settings ((number, x) :: around) x callbacks) :
    Item.sitesAll (num (space around)) spaces callbacks (owner settings around)
        (x.outline settings) =
      (through settings around number x).flatMap (placed settings num) := by
  induction x using Visit.induct settings generalizing around number spaces callbacks with
  | h x ih =>
    have hnext : ∀ spaces' callbacks',
        (∀ j s, ((x.next settings).zipIdx.flatMap fun y =>
          (through settings ((number, x) :: around) y.2 y.1).filter isOpening)[j]? = some s →
          num s = spaces' + j) →
        (x.opens = true ∨ x.standing = .statements .body → callbacks' = 0) →
        Item.sitesAll (num (space ((number, x) :: around))) spaces' callbacks'
          (owner settings ((number, x) :: around))
          ((x.next settings).flatMap (Visit.outline settings)) =
        (x.next settings).zipIdx.flatMap fun y =>
          (through settings ((number, x) :: around) y.2 y.1).flatMap (placed settings num) :=
      fun spaces' callbacks' hnum' hzero =>
        sitesAll_flatMap _ 0 spaces' callbacks'
          (fun y hy number' spaces'' callbacks'' => ih y hy _ number' spaces'' callbacks'') hnum'
          fun j y hj => callbacksBefore_next hzero hj
    rw [filter_through] at hnum
    rw [through_eq, List.flatMap_cons, List.flatMap_assoc, Visit.outline_eq, placed]
    cases x.shape settings with
    | space hopens _ hframe =>
      have hself : num ((number, x) :: around) = spaces := hnum 0 _ (by simp [hopens])
      have howner : owner settings ((number, x) :: around) = none := by rw [owner, hframe]
      have hlater := hnext (spaces + 1) 0 (fun j s hj => by
        have := hnum (j + 1) s (by simpa [hopens] using hj)
        omega) fun _ => rfl
      rw [space_of_opens hopens, hself, howner] at hlater
      rw [hframe, Frame.wrap, Item.sitesAll, Item.sites, Item.sitesAll, List.append_nil, hlater]
      rfl
    | callback r hopens hregistration hframe =>
      have howner : owner settings ((number, x) :: around) = some (.callback callbacks) := by
        rw [hcallbacks.1 (by rw [hregistration]; rfl), owner, hframe]
        rfl
      have hlater := hnext spaces (callbacks + 1) (by simpa [hopens] using hnum) fun hx =>
        absurd hx (Visit.not_body_of_frame_owned hframe)
      rw [space_of_not_opens hopens, howner] at hlater
      rw [hframe, Frame.wrap, Item.sitesAll, Item.sites, Item.sitesAll, List.append_nil]
      exact hlater
    | owned o hopens _ hcallback _ hframe =>
      have howner : owner settings ((number, x) :: around) = Item.callerOf callbacks o := by
        rw [owner, hframe]
        cases o with
        | callback r => exact absurd rfl (hcallback r)
        | nobody | method => rfl
      have hlater := hnext spaces (Item.callbacksWithin callbacks o)
        (by simpa [hopens] using hnum) fun hx => absurd hx (Visit.not_body_of_frame_owned hframe)
      rw [space_of_not_opens hopens, howner] at hlater
      rw [hframe, Frame.wrap, Item.sitesAll, Item.sites, Item.sitesAll, List.append_nil]
      exact hlater
    | after items hopens _ hflat hframe =>
      have howner : owner settings ((number, x) :: around) = owner settings around := by
        rw [owner, hframe]
      have hlater := hnext spaces callbacks (by simpa [hopens] using hnum) fun hx => by
        rcases hx with hx | hx
        · rw [hopens] at hx
          cases hx
        · exact hcallbacks.2 hx
      rw [space_of_not_opens hopens, howner] at hlater
      rw [hframe, Frame.wrap, Item.sitesAll_append, Item.sitesAll_of_isFlat hflat,
        Item.spaceCountAll_of_isFlat hflat, Item.registrationsAll_of_isFlat hflat,
        Nat.add_zero, List.length_nil, Nat.add_zero, hlater]
      rfl

/-! ## The index of a file -/

/-- The trails that open the namespaces of a file. The empty one stands for the file itself. -/
def spaces (settings : Settings) (root : Node) : List Trail :=
  [] :: (walk settings root).filter isOpening

/-- The number of the namespace that a trail opens. -/
def spaceNumber (settings : Settings) (root : Node) (t : Trail) : Nat :=
  ((spaces settings root).map way).idxOf t.way

theorem nodup_ways_spaces (settings : Settings) (root : Node) :
    ((spaces settings root).map way).Nodup := by
  rw [spaces, List.map_cons, List.nodup_cons]
  refine ⟨fun h => ?_, (nodup_ways settings [] 0 _).sublist (List.filter_sublist.map _)⟩
  obtain ⟨t, ht, hway⟩ := List.mem_map.mp h
  obtain ⟨inner, rfl⟩ := exists_of_mem_through (List.mem_filter.mp ht).1
  simp [way] at hway

theorem spaceNumber_eq {settings : Settings} {root : Node} {t : Trail} {j : Nat}
    (h : (spaces settings root)[j]? = some t) : spaceNumber settings root t = j := by
  have hj : ((spaces settings root).map way)[j]? = some t.way := by
    rw [List.getElem?_map, h]
    rfl
  obtain ⟨hlt, hget⟩ := List.getElem?_eq_some_iff.mp hj
  rw [spaceNumber, ← hget]
  exact (nodup_ways_spaces settings root).idxOf_getElem j hlt

/-- The namespaces of a file are those that the walk opens. -/
theorem contexts_ofTree (settings : Settings) (root : Node) :
    (Index.ofTree settings root).contexts =
      (spaces settings root).map (context settings root) := by
  rw [spaces, List.map_cons, walk, ← contextsAll_outline]
  rfl

/-- The sites of a file are those that the walk finds. -/
theorem sites_ofTree (settings : Settings) (root : Node) :
    (Index.ofTree settings root).sites =
      (walk settings root).flatMap (placed settings (spaceNumber settings root)) := by
  have hfile : spaceNumber settings root (space []) = 0 := spaceNumber_eq rfl
  have hsites : Item.sitesAll (spaceNumber settings root (space [])) 1 0 (owner settings [])
        (Visit.outline settings (.file root)) =
      (walk settings root).flatMap (placed settings (spaceNumber settings root)) := by
    refine sitesAll_outline (.file root) [] 0 1 0 (fun j t ht => ?_) ⟨?_, fun _ => rfl⟩
    · rw [spaceNumber_eq (j := j + 1) ht, Nat.add_comm]
    · intro h
      cases h
  rw [hfile] at hsites
  exact hsites

end Trail

end LocaleKeys.Outline
