import LocaleKeys.Proofs.Trail

/-!
# Proofs: whose call a site is

The namespace and the caller of every site, told from the nodes around it alone: the innermost class
or module, the innermost definition, and the member of a body in which it lies.
-/

namespace LocaleKeys.Outline

open Ast

namespace Trail

/-! ## The nodes around a call -/

/-- The trail of the innermost definition that a trail ends at or goes through. Without one it is
empty, which stands for the file. -/
def definition (t : Trail) : Trail := t.dropWhile fun v => !v.2.defines

/-- The trail of the innermost member of a body that a trail ends at or goes through. -/
def member (t : Trail) : Trail := t.dropWhile fun v => v.2.standing ≠ .code .body

/-- The visits from the end of a trail out to that member, without the member itself. -/
def insideMember (t : Trail) : Trail := t.takeWhile fun v => v.2.standing ≠ .code .body

/-- Do visits inside a call that registers a callback lead into its block, or into a lambda among
its positional arguments? The outermost of them is the block or the list of arguments. -/
def inOwnCode (inner : Trail) : Bool :=
  match inner.reverse with
  | [] => false
  | (_, part) :: rest =>
    part.standing = .code .inside ||
      part.standing = .arguments &&
        rest.head?.any fun a => a.2.standing = .code .inside && a.2.node.kind = .lambda

/-- The callback in whose code a trail ends. -/
def callback? (settings : Settings) (t : Trail) : Option Caller :=
  match member t with
  | [] => none
  | m :: around =>
    if (m.2.registration? settings).isSome && inOwnCode (insideMember t) then
      some (.callback (callbackNumber settings (m :: around)))
    else none

/-- Who makes the call at the end of a trail: the method whose definition is the innermost one
around it, unless that is a member of an object's own class, or the callback in whose code it lies,
if the innermost definition is a class or module or there is none. -/
def caller (settings : Settings) (t : Trail) : Option Caller :=
  match definition t.tail with
  | [] => callback? settings t
  | (_, b) :: _ =>
    match b.node.kind with
    | .method => if b.standing = .code .singletonBody then none else b.definition?.map .method
    | .classDef | .moduleDef => callback? settings t
    | _ => none

/-! ## Trails of a walk -/

/-- A trail that the walk through a file makes. -/
inductive Reached (settings : Settings) (root : Node) : Trail → Prop where
  /-- It begins at the file. -/
  | file : Reached settings root [(0, .file root)]
  /-- It goes on to each of the visits after one. -/
  | next {number i : Nat} {x y : Visit} {around : Trail}
      (h : Reached settings root ((number, x) :: around)) (hy : (x.next settings)[i]? = some y) :
      Reached settings root ((i, y) :: (number, x) :: around)

theorem Reached.of_mem_through {settings : Settings} {root : Node} {around t : Trail}
    {number : Nat} {x : Visit} (hx : Reached settings root ((number, x) :: around))
    (h : t ∈ through settings around number x) : Reached settings root t := by
  induction x using Visit.induct settings generalizing around number with
  | h x ih =>
    rw [through_eq] at h
    rcases List.mem_cons.mp h with rfl | h
    · exact hx
    · obtain ⟨⟨y, i⟩, hy, ht⟩ := List.mem_flatMap.mp h
      have hi : (x.next settings)[i]? = some y := List.mk_mem_zipIdx_iff_getElem?.mp hy
      exact ih y (List.mem_of_getElem? hi) (hx.next hi) ht

theorem Reached.of_mem_walk {settings : Settings} {root : Node} {t : Trail}
    (h : t ∈ walk settings root) : Reached settings root t :=
  Reached.file.of_mem_through h

/-- A trail leads through nodes of the file. -/
theorem Reached.holds {settings : Settings} {root : Node} {t : Trail}
    (h : Reached settings root t) : ∀ v ∈ t, root.Holds v.2.node := by
  induction h with
  | file => exact List.forall_mem_singleton.mpr (Node.Holds.refl root)
  | @next number i x y around _ hy ih =>
    refine List.forall_mem_cons.mpr ⟨?_, ih⟩
    have hx := ih (number, x) List.mem_cons_self
    rcases Visit.mem_next (List.mem_of_getElem? hy) with hchild | ⟨-, rfl⟩
    · exact hx.tail hchild
    · exact hx

theorem definition_cons_of_defines {v : Nat × Visit} {around : Trail} (h : v.2.defines = true) :
    definition (v :: around) = v :: around := by
  simp [definition, h]

theorem definition_cons_of_not_defines {v : Nat × Visit} {around : Trail}
    (h : v.2.defines = false) : definition (v :: around) = definition around := by
  simp [definition, h]

/-- The innermost definition around some code is of a kind, and nobody owns the code in it. -/
structure Within (settings : Settings) (kind : Visit → Bool) (around : Trail) : Prop where
  /-- The definition is of this kind, if there is one. -/
  definition : ∀ b ∈ (definition around).head?, kind b.2 = true
  /-- Nobody owns the code. -/
  owner : owner settings around = none

theorem Within.cons_statements {settings : Settings} {kind : Visit → Bool} {v : Nat × Visit}
    {around : Trail} {place : Place} (h : Within settings kind around)
    (hv : v.2.standing = .statements place) : Within settings kind (v :: around) where
  definition := by
    rw [definition_cons_of_not_defines (Visit.defines_eq_false (by simp [Visit.isCode, hv]))]
    exact h.definition
  owner := by
    rw [Trail.owner, Visit.frame_statements hv]
    exact h.owner

/-- Members of a body, and the statements of one, stand in a class or module or in the file. -/
theorem Reached.within_body {settings : Settings} {root : Node} {t : Trail}
    (h : Reached settings root t) : ∀ v around, t = v :: around →
      v.2.standing = .code .body ∨ v.2.standing = .statements .body →
      Within settings Visit.opens around := by
  induction h with
  | file =>
    rintro v around ⟨⟩ -
    exact ⟨by simp [Trail.definition], rfl⟩
  | @next number i x y around _ hy ih =>
    rintro v around' ⟨⟩ hstanding
    have hfollows := Visit.follows_of_mem_next (List.mem_of_getElem? hy)
    have hx : x.opens = true ∨ x.standing = .statements .body := by
      rcases hstanding with hy | hy
      · exact hfollows.of_code_body hy
      · exact Or.inl (hfollows.of_statements_body hy)
    rcases hx with hopens | hx
    · have hdefinition : Trail.definition ((number, x) :: around) = (number, x) :: around :=
        definition_cons_of_defines (Visit.defines_of_opens hopens)
      refine ⟨?_, by rw [Trail.owner, Visit.frame_of_opens hopens]⟩
      rw [hdefinition]
      rintro b ⟨⟩
      exact hopens
    · exact (ih _ _ rfl (Or.inr hx)).cons_statements hx

/-- Members of an object's own class, and the statements of one, stand in it. -/
theorem Reached.within_singletonBody {settings : Settings} {root : Node} {t : Trail}
    (h : Reached settings root t) : ∀ v around, t = v :: around →
      v.2.standing = .code .singletonBody ∨ v.2.standing = .statements .singletonBody →
      (Trail.definition around).head?.isSome = true ∧
        Within settings Visit.isSingletonClass around := by
  induction h with
  | file =>
    rintro v around ⟨⟩ hstanding
    simp [Visit.file] at hstanding
  | @next number i x y around _ hy ih =>
    rintro v around' ⟨⟩ hstanding
    have hfollows := Visit.follows_of_mem_next (List.mem_of_getElem? hy)
    have hx : x.isSingletonClass = true ∨ x.standing = .statements .singletonBody := by
      rcases hstanding with hy | hy
      · exact hfollows.of_code_singletonBody hy
      · rcases hfollows.of_statements hy with ⟨-, h⟩ | ⟨h, -⟩
        · cases h
        · exact Or.inl h
    rcases hx with hsingleton | hx
    · have hdefinition : Trail.definition ((number, x) :: around) = (number, x) :: around :=
        definition_cons_of_defines (Visit.defines_of_isSingletonClass hsingleton)
      rw [hdefinition]
      refine ⟨rfl, ?_, by rw [Trail.owner, Visit.frame_of_isSingletonClass hsingleton]; rfl⟩
      rw [hdefinition]
      rintro b ⟨⟩
      exact hsingleton
    · obtain ⟨hsome, hwithin⟩ := ih _ _ rfl (Or.inr hx)
      have hdefines : x.defines = false := Visit.defines_eq_false (by simp [Visit.isCode, hx])
      rw [definition_cons_of_not_defines hdefines]
      exact ⟨hsome, hwithin.cons_statements hx⟩

/-! ## The caller of code -/

theorem callback?_append (settings : Settings) {z : Nat × Visit} (inner rest : Trail)
    (hz : z.2.standing = .code .body) (hinner : ∀ v ∈ inner, v.2.standing ≠ .code .body) :
    callback? settings (inner ++ z :: rest) =
      if (z.2.registration? settings).isSome && inOwnCode inner then
        some (.callback (callbackNumber settings (z :: rest)))
      else none := by
  have hpos : ∀ v ∈ inner, decide (v.2.standing ≠ .code .body) = true :=
    fun v hv => decide_eq_true (hinner v hv)
  have hmember : member (inner ++ z :: rest) = z :: rest := by
    rw [member, List.dropWhile_append_of_pos hpos]
    simp [hz]
  have hinside : insideMember (inner ++ z :: rest) = inner := by
    rw [insideMember, List.takeWhile_append_of_pos hpos]
    simp [hz]
  rw [callback?, hmember, hinside]

theorem callback?_of_member {settings : Settings} {v : Nat × Visit} {around : Trail}
    (h : v.2.standing = .code .body) : callback? settings (v :: around) = none := by
  simpa [inOwnCode] using callback?_append settings [] around h (List.forall_mem_nil _)

/-- Code inside code is in a block or lambda when the code around it is. -/
theorem inOwnCode_cons {v w : Nat × Visit} {inner : Trail} (hw : w.2.standing ≠ .arguments) :
    inOwnCode (v :: w :: inner) = inOwnCode (w :: inner) := by
  simp only [inOwnCode, List.reverse_cons]
  cases inner.reverse with
  | nil => simp [hw]
  | cons a rest => cases rest <;> simp

/-- Where the innermost definition is a class or module, or there is none, only a callback can own
the code. -/
theorem caller_of_within {settings : Settings} {v : Nat × Visit} {t around : Trail}
    (hdefinition : definition t = definition around) (h : Within settings Visit.opens around) :
    caller settings (v :: t) = callback? settings (v :: t) := by
  rw [caller, List.tail_cons, hdefinition]
  cases hb : definition around with
  | nil => rfl
  | cons b rest =>
    have hopens : b.2.opens = true := h.definition b (by rw [hb]; rfl)
    obtain ⟨number, n, standing, v⟩ := b
    cases standing with
    | code place =>
      simp only [Visit.opens, Bool.or_eq_true, decide_eq_true_eq] at hopens
      rcases hopens with hkind | hkind <;> simp only [hkind]
    | _ => cases hopens

/-- Code in an object's own class is nobody's. -/
theorem caller_of_singleton {settings : Settings} {v : Nat × Visit} {around : Trail}
    (hsome : (definition around).head?.isSome = true)
    (h : Within settings Visit.isSingletonClass around) : caller settings (v :: around) = none := by
  rw [caller, List.tail_cons]
  cases hb : definition around with
  | nil => rw [hb] at hsome; cases hsome
  | cons b rest =>
    have hsingleton : b.2.isSingletonClass = true := h.definition b (by rw [hb]; rfl)
    have hkind : b.2.node.kind = .singletonClass := by
      simpa using (Bool.and_eq_true_iff.mp hsingleton).2
    simp only [hkind]

theorem Reached.exists_parent {settings : Settings} {root : Node} {i : Nat} {x : Visit}
    {around : Trail} (h : Reached settings root ((i, x) :: around))
    (hx : x.standing ≠ .statements .body) :
    ∃ number z rest, around = (number, z) :: rest ∧ Reached settings root ((number, z) :: rest) ∧
      Visit.Follows settings z x := by
  cases h with
  | file => exact absurd rfl hx
  | next h hy => exact ⟨_, _, _, rfl, h, Visit.follows_of_mem_next (List.mem_of_getElem? hy)⟩

/-- The arguments of a call that registers a callback stand in that call. -/
theorem Reached.exists_registration {settings : Settings} {root : Node} {i : Nat} {x : Visit}
    {around : Trail} (h : Reached settings root ((i, x) :: around))
    (hx : x.standing = .arguments) :
    ∃ number z rest r, around = (number, z) :: rest ∧ z.registration? settings = some r ∧
      Within settings Visit.opens rest := by
  obtain ⟨number, z, rest, rfl, hz, hfollows⟩ := h.exists_parent (by simp [hx])
  obtain ⟨r, hregistration⟩ := hfollows.of_arguments hx
  have hbody := (Visit.of_registration? hregistration).1
  exact ⟨number, z, rest, r, rfl, hregistration, hz.within_body _ _ rfl (Or.inl hbody)⟩

/-- What a call that registers a callback hands down. -/
theorem owner_of_registration {settings : Settings} {number : Nat} {z : Visit} {rest : Trail}
    {r : Registration} (h : z.registration? settings = some r) :
    owner settings ((number, z) :: rest) =
      some (.callback (callbackNumber settings ((number, z) :: rest))) := by
  rw [owner, (Visit.of_registration? h).2.2]
  rfl

section Cases

variable {settings : Settings} {i number : Nat} {x y : Visit} {around : Trail}

/-- Code in a member of a body, with no other code between them, is the callback's or nobody's. -/
theorem caller_in_member {v m : Nat × Visit} (inner : Trail) (hm : m.2.standing = .code .body)
    (hdefines : m.2.defines = false) (hv : v.2.standing = .code .inside)
    (hinner : ∀ w ∈ inner, w.2.isCode = false) (hwithin : Within settings Visit.opens around) :
    caller settings (v :: (inner ++ m :: around)) =
      if (m.2.registration? settings).isSome && inOwnCode (v :: inner) then
        some (.callback (callbackNumber settings (m :: around)))
      else none := by
  have hdefinition : definition (inner ++ m :: around) = definition around := by
    rw [definition, List.dropWhile_append_of_pos fun w hw => by
      rw [Visit.defines_eq_false (hinner w hw)]; rfl]
    exact definition_cons_of_not_defines hdefines
  have hmember : ∀ w ∈ v :: inner, w.2.standing ≠ .code .body := by
    refine List.forall_mem_cons.mpr ⟨by simp [hv], fun w hw hbody => ?_⟩
    simpa [Visit.isCode, hbody] using hinner w hw
  rw [caller_of_within hdefinition hwithin, ← List.cons_append,
    callback?_append settings (v :: inner) around hm hmember]

/-- The code of a block is the callback's. -/
theorem caller_of_block {r : Registration} (hregistration : x.registration? settings = some r)
    (hwithin : Within settings Visit.opens around) (hy : y.standing = .code .inside) :
    owner settings ((number, x) :: around) =
      caller settings ((i, y) :: (number, x) :: around) := by
  obtain ⟨hx, hdefines, -⟩ := Visit.of_registration? hregistration
  have hcaller := caller_in_member (v := (i, y)) (m := (number, x)) [] hx hdefines hy
    (List.forall_mem_nil _) hwithin
  rw [owner_of_registration hregistration]
  simpa [hregistration, inOwnCode, hy] using hcaller.symm

/-- The code of a lambda is the callback's. -/
theorem caller_of_lambda {j : Nat} {a : Visit} {r : Registration}
    (hregistration : x.registration? settings = some r)
    (hwithin : Within settings Visit.opens around) (ha : a.standing = .arguments)
    (hy : y.standing = .code .inside) (hkind : y.node.kind = .lambda) :
    owner settings ((j, a) :: (number, x) :: around) =
      caller settings ((i, y) :: (j, a) :: (number, x) :: around) := by
  obtain ⟨hx, hdefines, -⟩ := Visit.of_registration? hregistration
  have hcaller := caller_in_member (v := (i, y)) (m := (number, x)) [(j, a)] hx hdefines hy
    (by simp [Visit.isCode, ha]) hwithin
  have howner : owner settings ((j, a) :: (number, x) :: around) =
      owner settings ((number, x) :: around) := by
    rw [owner, Visit.frame_arguments ha]
  rw [howner, owner_of_registration hregistration]
  simpa [hregistration, inOwnCode, hy, ha, hkind] using hcaller.symm

/-- The code of any other argument is nobody's. -/
theorem caller_of_loose {j k : Nat} {a l : Visit} {r : Registration}
    (hregistration : x.registration? settings = some r)
    (hwithin : Within settings Visit.opens around) (ha : a.standing = .arguments)
    (hl : l.standing = .loose) (hy : y.standing = .code .inside) :
    owner settings ((k, l) :: (j, a) :: (number, x) :: around) =
      caller settings ((i, y) :: (k, l) :: (j, a) :: (number, x) :: around) := by
  obtain ⟨hx, hdefines, -⟩ := Visit.of_registration? hregistration
  have hcaller := caller_in_member (v := (i, y)) (m := (number, x)) [(k, l), (j, a)] hx hdefines
    hy (by simp [Visit.isCode, hl, ha]) hwithin
  have howner : owner settings ((k, l) :: (j, a) :: (number, x) :: around) = none := by
    rw [owner, Visit.frame_loose hl]
    rfl
  rw [howner]
  simpa [inOwnCode, ha, hl] using hcaller.symm

/-- The code of the arguments of a call that sets a visibility is nobody's. -/
theorem caller_of_wrapped {j : Nat} {a : Visit} {w : Visibility} (hx : x.standing = .code .body)
    (hregistration : x.registration? settings = none) (hdefines : x.defines = false)
    (hwithin : Within settings Visit.opens around) (ha : a.standing = .wrapped w)
    (hy : y.standing = .code .inside) :
    owner settings ((j, a) :: (number, x) :: around) =
      caller settings ((i, y) :: (j, a) :: (number, x) :: around) := by
  obtain ⟨items, hframe⟩ := Visit.exists_frame_after hregistration hdefines (by simp [hx])
  have hcaller := caller_in_member (v := (i, y)) (m := (number, x)) [(j, a)] hx hdefines hy
    (by simp [Visit.isCode, ha]) hwithin
  have howner : owner settings ((j, a) :: (number, x) :: around) = none := by
    rw [owner, Visit.frame_wrapped ha]
    dsimp only
    rw [owner, hframe]
    exact hwithin.owner
  rw [howner]
  simpa [hregistration] using hcaller.symm

/-- The code of a method is the method's, unless the method is an object's own. -/
theorem caller_of_method (hdefines : x.defines = true) (hopens : x.opens = false)
    (hsingleton : x.isSingletonClass = false) (hnext : y ∈ x.next settings) :
    owner settings ((number, x) :: around) =
      caller settings ((i, y) :: (number, x) :: around) := by
  have hkind := Visit.kind_of_defines hdefines hopens hsingleton
  rw [owner, caller, List.tail_cons, definition_cons_of_defines hdefines]
  obtain ⟨n, standing, v⟩ := x
  cases standing with
  | code place =>
    rcases hkind with hkind | hkind
    · simp only [Visit.next, Visit.step, Visit.codeStep, hkind] at hnext
      simp only [Visit.frame, Visit.step, Visit.codeStep, hkind]
      cases howner : methodOwner? place v n with
      | none =>
        rw [howner] at hnext
        cases hnext
      | some o =>
        unfold methodOwner? at howner
        split at howner
        · cases howner
          simp_all [Item.callerOf]
        · obtain ⟨name, hname, rfl⟩ := Option.map_eq_some_iff.mp howner
          simp_all [Item.callerOf, Visit.definition?]
    · simp only [Visit.frame, Visit.step, Visit.codeStep, hkind]
      rfl
  | _ => cases hdefines

theorem callback?_cons (hx : x.isCode = true) (hregistration : x.registration? settings = none)
    (hy : y.standing = .code .inside) :
    callback? settings ((i, y) :: (number, x) :: around) =
      callback? settings ((number, x) :: around) := by
  by_cases hbody : x.standing = .code .body
  · have hcallback := callback?_append (z := (number, x)) settings [(i, y)] around hbody
      (by simp [hy])
    have hself : callback? settings ((number, x) :: around) = none := callback?_of_member hbody
    rw [hself]
    simpa [hregistration] using hcallback
  · have harguments : x.standing ≠ .arguments := by
      intro h
      simp [Visit.isCode, h] at hx
    have hinside : insideMember ((number, x) :: around) = (number, x) :: insideMember around := by
      simp [insideMember, hbody]
    have hinside' : insideMember ((i, y) :: (number, x) :: around) =
        (i, y) :: (number, x) :: insideMember around := by
      simp [insideMember, hbody, hy]
    have hmember : member ((i, y) :: (number, x) :: around) = member ((number, x) :: around) := by
      simp [member, hy]
    rw [callback?, callback?, hmember, hinside, hinside', inOwnCode_cons harguments]

/-- Inside other code the caller is the same as around it. -/
theorem caller_cons (hx : x.isCode = true) (hregistration : x.registration? settings = none)
    (hdefines : x.defines = false) (hy : y.standing = .code .inside) :
    caller settings ((i, y) :: (number, x) :: around) =
      caller settings ((number, x) :: around) := by
  rw [caller, caller, List.tail_cons, List.tail_cons, definition_cons_of_not_defines hdefines,
    callback?_cons hx hregistration hy]

end Cases

/-- The caller that is handed down to code is told by the nodes around it. -/
theorem owner_eq_caller {settings : Settings} {root : Node} {t : Trail}
    (h : Reached settings root t) : ∀ v around, t = v :: around → v.2.isCode = true →
      owner settings around = caller settings t := by
  induction h with
  | file =>
    rintro v around ⟨⟩ hcode
    cases hcode
  | @next number i x y around hx hy ih =>
    rintro v around' ⟨⟩ hcode
    have hmem : y ∈ x.next settings := List.mem_of_getElem? hy
    have hnext := hx.next hy
    cases hstanding : y.standing with
    | code place =>
      cases place with
      | body =>
        have hwithin := hnext.within_body _ _ rfl (Or.inl hstanding)
        rw [hwithin.owner, caller_of_within rfl hwithin, callback?_of_member hstanding]
      | singletonBody =>
        obtain ⟨hsome, hwithin⟩ := hnext.within_singletonBody _ _ rfl (Or.inl hstanding)
        rw [hwithin.owner, caller_of_singleton hsome hwithin]
      | inside =>
        cases Visit.follows_of_mem_next hmem with
        | inside hcode' hopens hsingleton =>
          cases hregistration : x.registration? settings with
          | some r =>
            have hbody := (Visit.of_registration? hregistration).1
            exact caller_of_block hregistration (hx.within_body _ _ rfl (Or.inl hbody)) hstanding
          | none =>
            cases hdefines : x.defines with
            | true => exact caller_of_method hdefines hopens hsingleton hmem
            | false =>
              obtain ⟨items, hframe⟩ := Visit.exists_frame_after hregistration hdefines
                fun hloose => by simp [Visit.isCode, hloose] at hcode'
              rw [caller_cons hcode' hregistration hdefines hstanding, ← ih _ _ rfl hcode', owner,
                hframe]
        | wrappedArgument w hw =>
          obtain ⟨k, z, rest, rfl, hz, hfollows⟩ := hx.exists_parent (by simp [hw])
          obtain ⟨hbody, hregistration, hdefines⟩ := hfollows.of_wrapped hw
          exact caller_of_wrapped hbody hregistration hdefines
            (hz.within_body _ _ rfl (Or.inl hbody)) hw hstanding
        | lambda ha _ hkind =>
          obtain ⟨k, z, rest, r, rfl, hregistration, hwithin⟩ := hx.exists_registration ha
          exact caller_of_lambda hregistration hwithin ha hstanding hkind
        | loose hl =>
          obtain ⟨k, a, rest, rfl, ha, hfollows⟩ := hx.exists_parent (by simp [hl])
          have harguments := hfollows.of_loose hl
          obtain ⟨k', z, rest', r, rfl, hregistration, hwithin⟩ := ha.exists_registration harguments
          exact caller_of_loose hregistration hwithin harguments hl hstanding
        | statement place hstatements hplace =>
          -- The statements of a body stand in a class, a module, an object's own class or a file.
          obtain rfl : place = .inside := by simpa [hplace] using hstanding
          obtain ⟨k, z, rest, -, -, hfollows⟩ := hx.exists_parent (by simp [hstatements])
          rcases hfollows.of_statements hstatements with ⟨-, h⟩ | ⟨-, h⟩ <;> cases h
        | body _ h | singletonBody _ h => rcases h with h | h <;> simp [hstanding] at h
        | _ => simp_all
    | _ => simp [Visit.isCode, hstanding] at hcode

/-! ## The namespace of code -/

theorem mem_through_next {settings : Settings} {around a : Trail} {n number i : Nat} {x y z : Visit}
    (h : (number, x) :: around ∈ through settings a n z) (hy : (x.next settings)[i]? = some y) :
    (i, y) :: (number, x) :: around ∈ through settings a n z := by
  induction z using Visit.induct settings generalizing a n with
  | h z ih =>
    rw [through_eq] at h ⊢
    refine List.mem_cons_of_mem _ (List.mem_flatMap.mpr ?_)
    rcases List.mem_cons.mp h with heq | h
    · cases heq
      refine ⟨(y, i), List.mk_mem_zipIdx_iff_getElem?.mpr hy, ?_⟩
      rw [through_eq]
      exact List.mem_cons_self
    · obtain ⟨w, hw, ht⟩ := List.mem_flatMap.mp h
      exact ⟨w, hw, ih w.1 (List.fst_mem_of_mem_zipIdx hw) ht⟩

theorem Reached.mem_walk {settings : Settings} {root : Node} {t : Trail}
    (h : Reached settings root t) : t ∈ walk settings root := by
  induction h with
  | file =>
    rw [walk, through_eq]
    exact List.mem_cons_self
  | next _ hy ih => exact mem_through_next ih hy

theorem Reached.of_append {settings : Settings} {root : Node} {v : Nat × Visit}
    {inner around : Trail} (h : Reached settings root (inner ++ v :: around)) :
    Reached settings root (v :: around) := by
  induction inner with
  | nil => exact h
  | cons w inner ih =>
    refine ih ?_
    cases hrest : inner ++ v :: around with
    | nil => simp at hrest
    | cons u rest =>
      rw [List.cons_append, hrest] at h
      cases h with
      | next h' _ => exact h'

/-- The innermost class or module around code opens one of the namespaces. -/
theorem space_mem_spaces {settings : Settings} {root : Node} {v : Nat × Visit} {around : Trail}
    (h : Reached settings root (v :: around)) : space around ∈ spaces settings root := by
  have hsplit : around = around.takeWhile (fun v => !v.2.opens) ++ space around :=
    List.takeWhile_append_dropWhile.symm
  cases hspace : space around with
  | nil => exact List.mem_cons_self
  | cons b rest =>
    have hopens : b.2.opens = true := by
      have := List.head?_dropWhile_not (fun v : Nat × Visit => !v.2.opens) around
      rw [show around.dropWhile _ = b :: rest from hspace] at this
      simpa using this
    have hreached : Reached settings root (b :: rest) := by
      rw [hspace] at hsplit
      rw [hsplit, ← List.cons_append] at h
      exact h.of_append
    exact List.mem_cons_of_mem _ (List.mem_filter.mpr ⟨hreached.mem_walk, by
      simp [isOpening, hopens]⟩)

/-- Between a member of a body and the code inside it no namespace is opened but in members of
its own. -/
theorem space_of_inside {settings : Settings} {root : Node} {m : Nat × Visit} {around : Trail}
    (hm : m.2.opens = false) (inner : Trail) (v : Nat × Visit)
    (h : Reached settings root (v :: (inner ++ m :: around)))
    (hv : v.2.standing ≠ .code .body ∧ v.2.standing ≠ .statements .body)
    (hinner : ∀ w ∈ inner, w.2.standing ≠ .code .body) :
    space (inner ++ m :: around) = space around := by
  induction inner generalizing v with
  | nil => exact space_of_not_opens hm
  | cons w inner ih =>
    obtain ⟨hw, hrest⟩ := List.forall_mem_cons.mp hinner
    cases h with
    | @next number i x y _ hx hy =>
      have hmem : y ∈ x.next settings := List.mem_of_getElem? hy
      have hopens : x.opens = false := by
        rw [Bool.eq_false_iff]
        intro hopens
        rw [Visit.next_of_opens hopens] at hmem
        rcases Visit.standing_of_mem_ofBody hmem with hy | ⟨hy, -⟩
        · exact hv.1 hy
        · exact hv.2 hy
      have hstatements : x.standing ≠ .statements .body :=
        fun hx => hv.1 (Visit.standing_of_mem_next_statements hx hmem)
      rw [List.cons_append, space_of_not_opens hopens]
      exact ih (number, x) hx ⟨hw, hstatements⟩ hrest

theorem getElem?_filterMap {α β : Type} {f : α → Option β} {l : List α} {k : Nat} {a : α} {b : β}
    (hk : l[k]? = some a) (ha : f a = some b) :
    (l.filterMap f)[(l.take k).countP fun a => (f a).isSome]? = some b := by
  induction l generalizing k with
  | nil => cases hk
  | cons c l ih =>
    cases k with
    | zero =>
      cases hk
      simp [ha]
    | succ k =>
      have hrest := ih (k := k) hk
      rw [List.take_succ_cons, List.filterMap_cons, List.countP_cons]
      cases hc : f c with
      | none => simpa using hrest
      | some d => simpa using hrest

/-- The statements of a body register the callbacks of its members. -/
theorem registrationsAll_statements {settings : Settings} {p : Visit}
    (hp : p.standing = .statements .body) :
    Item.registrationsAll (p.outline settings) =
      (p.next settings).filterMap (Visit.registration? settings) := by
  rw [Visit.outline_eq, Visit.frame_statements hp]
  exact Visit.registrationsAll_members fun y hy => Visit.standing_of_mem_next_statements hp hy

/-- A call that registers a callback has its number among the callbacks of its namespace. -/
theorem callbacks_context {settings : Settings} {root : Node} {k : Nat} {m : Visit}
    {around : Trail} {r : Registration} (h : Reached settings root ((k, m) :: around))
    (hr : m.registration? settings = some r) :
    (context settings root (space around)).callbacks[callbackNumber settings
      ((k, m) :: around)]? = some r := by
  have hbody := (Visit.of_registration? hr).1
  cases h with
  | file => cases hr
  | @next number _ p _ rest hp hk =>
    have hmem : m ∈ p.next settings := List.mem_of_getElem? hk
    have hcallbacks : (context settings root (space ((number, p) :: rest))).callbacks =
        (p.next settings).filterMap (Visit.registration? settings) := by
      rcases (Visit.follows_of_mem_next hmem).of_code_body hbody with hopens | hstatements
      · rw [space_of_opens hopens]
        refine Visit.registrationsAll_members ?_
        rcases Visit.body_or_members settings hopens with ⟨y, hnext⟩ | hmembers
        · rw [hnext] at hmem ⊢
          rw [← List.mem_singleton.mp hmem]
          exact List.forall_mem_singleton.mpr hbody
        · exact hmembers
      · have hnot : p.opens = false := by simp [Visit.opens, hstatements]
        rw [space_of_not_opens hnot, ← registrationsAll_statements hstatements]
        cases hp with
        | file => rfl
        | @next j _ c _ rest' _ hj =>
          have hp' : p ∈ c.next settings := List.mem_of_getElem? hj
          have hopens : c.opens = true :=
            (Visit.follows_of_mem_next hp').of_statements_body hstatements
          rw [space_of_opens hopens]
          rcases Visit.body_or_members settings hopens with ⟨y, hnext⟩ | hmembers
          · rw [hnext] at hp'
            rw [List.mem_singleton.mp hp']
            simp [context, Context.ofBody, hnext]
          · rw [hmembers p hp'] at hstatements
            cases hstatements
    rw [hcallbacks, callbackNumber]
    exact getElem?_filterMap hk hr

theorem callback?_of_caller {settings : Settings} {t : Trail} {k : Nat}
    (h : caller settings t = some (.callback k)) : callback? settings t = some (.callback k) := by
  unfold caller at h
  split at h
  · exact h
  · split at h
    · split at h
      · cases h
      · obtain ⟨_, _, heq⟩ := Option.map_eq_some_iff.mp h
        cases heq
    · exact h
    · exact h
    · cases h

/-- Code that a callback owns lies inside the call that registers it. -/
theorem callback?_eq_some {settings : Settings} {v : Nat × Visit} {around : Trail} {k : Nat}
    (h : callback? settings (v :: around) = some (.callback k)) :
    ∃ inner m rest r, around = inner ++ m :: rest ∧ member (v :: around) = m :: rest ∧
      (∀ w ∈ v :: inner, w.2.standing ≠ .code .body) ∧ m.2.registration? settings = some r ∧
      k = callbackNumber settings (m :: rest) := by
  unfold callback? at h
  cases hmember : member (v :: around) with
  | nil => simp [hmember] at h
  | cons m rest =>
    simp only [hmember] at h
    split at h
    · rename_i hcond
      obtain ⟨hregistration, hown⟩ := Bool.and_eq_true_iff.mp hcond
      obtain ⟨r, hr⟩ := Option.isSome_iff_exists.mp hregistration
      have hinside : ∀ w ∈ insideMember (v :: around), w.2.standing ≠ .code .body :=
        fun w hw => of_decide_eq_true (List.all_eq_true.mp List.all_takeWhile w hw)
      have hsplit : v :: around = insideMember (v :: around) ++ m :: rest := by
        rw [← hmember]
        exact List.takeWhile_append_dropWhile.symm
      cases hinner : insideMember (v :: around) with
      | nil =>
        rw [hinner] at hown
        cases hown
      | cons w inner =>
        rw [hinner] at hinside
        rw [hinner, List.cons_append] at hsplit
        obtain ⟨rfl, haround⟩ := List.cons.inj hsplit
        cases h
        exact ⟨inner, m, rest, r, haround, rfl, hinside, hr, rfl⟩
    · cases h

/-- The callback that owns code is registered in the namespace in which the code stands. -/
theorem exists_registration_of_caller {settings : Settings} {root : Node} {v : Nat × Visit}
    {around : Trail} {k : Nat} (h : Reached settings root (v :: around))
    (hcode : v.2.isCode = true) (hcaller : caller settings (v :: around) = some (.callback k)) :
    ∃ m rest r, member (v :: around) = m :: rest ∧ m.2.registration? settings = some r ∧
      (context settings root (space around)).callbacks[k]? = some r := by
  obtain ⟨inner, m, rest, r, rfl, hmember, hinside, hr, rfl⟩ :=
    callback?_eq_some (callback?_of_caller hcaller)
  obtain ⟨hv, hinner⟩ := List.forall_mem_cons.mp hinside
  have hopens : m.2.opens = false := by
    rw [Bool.eq_false_iff]
    intro hopens
    have hdefines := (Visit.of_registration? hr).2.1
    rw [Visit.defines_of_opens hopens] at hdefines
    cases hdefines
  have hstatements : v.2.standing ≠ .statements .body := by
    intro hv'
    simp [Visit.isCode, hv'] at hcode
  have hreached : Reached settings root (m :: rest) := by
    rw [← List.cons_append] at h
    exact h.of_append
  rw [space_of_inside hopens inner v h ⟨hv, hstatements⟩ hinner]
  exact ⟨m, rest, r, hmember, hr, callbacks_context hreached hr⟩

/-! ## Sites with their surroundings -/

/-- The sites of the call at the end of a trail. -/
def sites (settings : Settings) : Trail → List Site
  | [] => []
  | (_, x) :: _ => if x.isCall settings then Site.ofCall settings x.node else []

/-- One node lies directly in another one, or it is the same node looked at in another way. -/
def Nested (inner outer : Nat × Visit) : Prop :=
  inner.2.node ∈ outer.2.node.children ∨ inner.2.node = outer.2.node

theorem Reached.isChain {settings : Settings} {root : Node} {t : Trail}
    (h : Reached settings root t) : t.IsChain Nested := by
  induction h with
  | file => exact List.isChain_singleton _
  | next _ hy ih =>
    refine List.isChain_cons_cons.mpr ⟨?_, ih⟩
    rcases Visit.mem_next (List.mem_of_getElem? hy) with hchild | ⟨-, rfl⟩
    · exact Or.inl hchild
    · exact Or.inr rfl

/-- A node is looked at as a definition by a visit of a trail. Only the file and the arguments of a
call never are. -/
def Seen (root : Node) (t : Trail) (n : Node) : Prop :=
  n = root ∨ n.plays .arguments = true ∨ ∃ w ∈ t, w.2.node = n ∧ w.2.defines = true

theorem Seen.cons {root n : Node} {t : Trail} (h : Seen root t n) (v : Nat × Visit) :
    Seen root (v :: t) n := by
  rcases h with hroot | hplays | ⟨w, hw, hnode, hdefines⟩
  · exact Or.inl hroot
  · exact Or.inr (Or.inl hplays)
  · exact Or.inr (Or.inr ⟨w, List.mem_cons_of_mem v hw, hnode, hdefines⟩)

theorem Seen.head {root : Node} {t : Trail} {v : Nat × Visit} (h : v.2.defines = true) :
    Seen root (v :: t) v.2.node :=
  Or.inr (Or.inr ⟨v, List.mem_cons_self, rfl, h⟩)

/-- No definition on a trail is passed over. An argument that nobody owns is looked at once more, so
it may be that this comes next. -/
theorem Reached.seen {settings : Settings} {root : Node} {t : Trail}
    (h : Reached settings root t) : ∀ v ∈ t, Visit.isDefinition v.2.node = true →
      Seen root t v.2.node ∨ v ∈ t.head? ∧ v.2.standing = .loose := by
  induction h with
  | file =>
    intro v hv _
    rw [List.mem_singleton.mp hv]
    exact Or.inl (Or.inl rfl)
  | @next number i x y around _ hy ih =>
    have hmem : y ∈ x.next settings := List.mem_of_getElem? hy
    intro v hv hdefinition
    rcases List.mem_cons.mp hv with rfl | hv
    · rcases (Visit.follows_of_mem_next hmem).of_isDefinition hdefinition with
        hdefines | hloose | hplays
      · exact Or.inl (Seen.head hdefines)
      · exact Or.inr ⟨rfl, hloose⟩
      · exact Or.inl (Or.inr (Or.inl hplays))
    · left
      rcases ih v hv hdefinition with hseen | ⟨hhead, hloose⟩
      · exact hseen.cons _
      · obtain rfl : (number, x) = v := Option.some.inj hhead
        obtain rfl : y = Visit.inside .pub x.node := by
          obtain ⟨n, standing, u⟩ := x
          cases hloose
          exact List.mem_singleton.mp hmem
        exact Seen.head hdefinition

theorem placed_eq {settings : Settings} {root : Node} {t : Trail} (h : Reached settings root t)
    (num : Trail → Nat) :
    placed settings num t =
      (t.sites settings).map fun s => ⟨num (space t.tail), caller settings t, s⟩ := by
  cases t with
  | nil => rfl
  | cons v around =>
    rw [placed, Visit.sites_frame, Trail.sites]
    cases hcall : v.2.isCall settings with
    | false => rfl
    | true =>
      rw [owner_eq_caller h v around rfl (Visit.isCode_of_isCall hcall)]
      rfl

/-- Every site of a file stands in the namespace of the innermost class or module around its call,
and the caller is the method or callback that the definitions and calls around it tell. The visits
around a call are to the nodes around it, and pass over no definition among them. -/
theorem sites_attributed (settings : Settings) (root : Node) :
    (Index.ofTree settings root).contexts =
        (spaces settings root).map (context settings root) ∧
      (Index.ofTree settings root).sites =
        (walk settings root).flatMap (fun t => (t.sites settings).map fun s =>
          ⟨spaceNumber settings root (space t.tail), caller settings t, s⟩) ∧
      ∀ t ∈ walk settings root, t.IsChain Nested ∧
        (spaces settings root)[spaceNumber settings root (space t.tail)]? = some (space t.tail) ∧
        (t.sites settings ≠ [] →
          (∀ v ∈ t, Visit.isDefinition v.2.node = true → Seen root t v.2.node) ∧
          ∀ k, caller settings t = some (.callback k) →
            ∃ m around r, member t = m :: around ∧ m.2.registration? settings = some r ∧
              (context settings root (space t.tail)).callbacks[k]? = some r) := by
  refine ⟨contexts_ofTree settings root, ?_, fun t ht => ?_⟩
  · rw [sites_ofTree]
    exact List.flatMap_congr fun t ht => placed_eq (Reached.of_mem_walk ht) _
  · have hreached := Reached.of_mem_walk ht
    cases t with
    | nil => cases hreached
    | cons v around =>
      refine ⟨hreached.isChain, ?_, fun hsites => ?_⟩
      · obtain ⟨j, hj⟩ := List.getElem?_of_mem (space_mem_spaces hreached)
        rw [List.tail_cons, spaceNumber_eq hj, hj]
      · have hcall : v.2.isCall settings = true := by
          by_contra hcall
          exact hsites (if_neg hcall)
        have hcode := Visit.isCode_of_isCall hcall
        refine ⟨fun w hw hdefinition => ?_, fun k => exists_registration_of_caller hreached hcode⟩
        rcases hreached.seen w hw hdefinition with hseen | ⟨⟨⟩, hloose⟩
        · exact hseen
        · simp [Visit.isCode, hloose] at hcode

end Trail

end LocaleKeys.Outline
