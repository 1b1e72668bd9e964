import ApiCompiler.Proofs.Shape.Rearrangement
import ApiCompiler.Shape.Walk
import Mathlib.Data.List.Induction

/-!
# The order of the walk

`Shape.walk` keeps a list of the shapes that are still to be visited and takes the first one off it,
time after time.  What it lists is the preorder of the shape, and this file says so in three ways.

* `Shape.preorder` is given by recursion on the shape, kind by kind (`Shape.collect`): first the
  shape itself, then the preorder of each of its children.  The invariant of the walk is that it
  lists the preorder of each pending shape in turn (`walkFrom_eq_flatMap`).
* `Shape.Unstacks` is the loop over a stack that grows at its end, where the children have to be put
  on in reverse.  It ends for every stack, and lists what the walk lists (`unstacks_iff`).
* A place in a shape is the way down to it, with the number of a child at every step.  Equal shapes
  may stand at several places, so that nothing is listed twice is a statement about places: the
  preorder lists what stands at every place once, in the lexicographic order of the places
  (`exists_enumeration`).
-/

namespace ApiCompiler

/-- The names that the discriminator selects, if there is one, in the order of its mapping. -/
def Traits.selected (t : Traits) : List String :=
  match t.discriminator with
  | some d => d.mapping.map (·.2)
  | .none => []

namespace Shape

/-! ## The preorder -/

section Collect

variable {α : Type}

mutual

/-- What is read off a shape and then off everything below it: the items of an array, the types of
an object's fields in their order and what its further properties hold, the members of a
composition in their order, what is negated. -/
def collect (read : Shape → List α) : Shape → List α
  | .array t s => read (.array t s) ++ collect read s
  | .object t fs a => read (.object t fs a) ++ (collectFields read fs ++ collectOption read a)
  | .composition t how ms => read (.composition t how ms) ++ collectAll read ms
  | .negation t s => read (.negation t s) ++ collect read s
  | s => read s

/-- What is read off the members, one after the other. -/
def collectAll (read : Shape → List α) : List Shape → List α
  | [] => []
  | s :: ss => collect read s ++ collectAll read ss

/-- What is read off the types of the fields, one after the other. -/
def collectFields (read : Shape → List α) : List (Field Shape) → List α
  | [] => []
  | ⟨_, s, _, _⟩ :: fs => collect read s ++ collectFields read fs

/-- What is read off the shape, if there is one. -/
def collectOption (read : Shape → List α) : Option Shape → List α
  | none => []
  | some s => collect read s

end

variable {read : Shape → List α}

theorem collectAll_eq (ss : List Shape) : collectAll read ss = ss.flatMap (collect read) := by
  induction ss with
  | nil => rw [collectAll, List.flatMap_nil]
  | cons s ss ih => rw [collectAll, ih, List.flatMap_cons]

theorem collectFields_eq (fs : List (Field Shape)) :
    collectFields read fs = (fs.map (·.type)).flatMap (collect read) := by
  induction fs with
  | nil => rw [collectFields, List.map_nil, List.flatMap_nil]
  | cons f fs ih => rw [collectFields, ih, List.map_cons, List.flatMap_cons]

theorem collectOption_eq (a : Option Shape) :
    collectOption read a = a.toList.flatMap (collect read) := by
  cases a with
  | none => rw [collectOption, Option.toList_none, List.flatMap_nil]
  | some s => rw [collectOption, Option.toList_some, List.flatMap_singleton]

/-- The shape is read first, then its children are in their order. -/
theorem collect_eq (s : Shape) :
    s.collect read = read s ++ s.children.flatMap (collect read) := by
  cases s with
  | array t s => rw [collect, children, List.flatMap_singleton]
  | object t fs a =>
    rw [collect, children, List.flatMap_append, collectFields_eq, collectOption_eq]
  | composition t how ms => rw [collect, children, collectAll_eq]
  | negation t s => rw [collect, children, List.flatMap_singleton]
  | _ => exact (List.append_nil _).symm

end Collect

/-- The shape and everything below it, each shape before its children. -/
def preorder (s : Shape) : List Shape := s.collect fun n => [n]

theorem preorder_eq (s : Shape) : s.preorder = s :: s.children.flatMap preorder :=
  collect_eq s

/-- What is collected is read off the shapes of the preorder. -/
theorem collect_eq_flatMap {α : Type} {read : Shape → List α} (s : Shape) :
    s.collect read = s.preorder.flatMap read := by
  induction s using rec_children with
  | step s ih =>
    rw [collect_eq, preorder_eq, List.flatMap_cons, List.flatMap_assoc]
    congr 1
    exact List.flatMap_congr ih

/-- The walk of the pending shapes is the preorder of each of them in turn. -/
theorem walkFrom_eq_flatMap (pending : List Shape) :
    walkFrom pending = pending.flatMap preorder := by
  induction pending using walkFrom.induct with
  | case1 => rw [walkFrom, List.flatMap_nil]
  | case2 s pending ih =>
    rw [walkFrom, ih, List.flatMap_append, List.flatMap_cons, preorder_eq, List.cons_append]

theorem walk_eq_preorder (s : Shape) : s.walk = s.preorder := by
  rw [walk, walkFrom_eq_flatMap, List.flatMap_singleton]

/-! ## A stack that grows at its end -/

/-- What is put on the stack in place of a shape, the last one on top.  The first child has to come
off first, so the children go on in reverse. -/
def pushed : Shape → List Shape
  | .array _ s => [s]
  | .object _ fs a => a.toList ++ (fs.map (·.type)).reverse
  | .composition _ _ ms => ms.reverse
  | .negation _ s => [s]
  | _ => []

/-- The loop over a stack lists these shapes: while there is one, the shape on top is taken off and
listed, and its children are put on. -/
inductive Unstacks : List Shape → List Shape → Prop
  | done : Unstacks [] []
  | turn {stack listed : List Shape} {s : Shape} (h : Unstacks (stack ++ s.pushed) listed) :
      Unstacks (stack ++ [s]) (s :: listed)

theorem reverse_pushed (s : Shape) : s.pushed.reverse = s.children := by
  cases s with
  | object t fs a => cases a <;> simp [pushed, children]
  | composition t how ms => exact List.reverse_reverse ms
  | _ => rfl

/-- One turn of the loop is one step of the walk, from the top of the stack down. -/
theorem walkFrom_reverse (stack : List Shape) (s : Shape) :
    walkFrom (stack ++ [s]).reverse = s :: walkFrom (stack ++ s.pushed).reverse := by
  rw [List.reverse_concat, walkFrom, List.reverse_append, reverse_pushed]

/-- The walk of the pending shapes is listed by the loop over a stack that has the first one on
top. -/
theorem unstacks_walkFrom (pending : List Shape) : Unstacks pending.reverse (walkFrom pending) := by
  induction pending using walkFrom.induct with
  | case1 =>
    rw [walkFrom]
    exact .done
  | case2 s pending ih =>
    have hstack : (s.children ++ pending).reverse = pending.reverse ++ s.pushed := by
      rw [List.reverse_append, ← reverse_pushed, List.reverse_reverse]
    rw [hstack] at ih
    rw [walkFrom, List.reverse_cons]
    exact .turn ih

/-- The loop ends for every stack, and what it lists is the walk from the top of the stack down. -/
theorem unstacks_iff {stack listed : List Shape} :
    Unstacks stack listed ↔ listed = walkFrom stack.reverse := by
  constructor
  · intro h
    induction h with
    | done => rw [List.reverse_nil, walkFrom]
    | turn _ ih => rw [walkFrom_reverse, ih]
  · rintro rfl
    have h := unstacks_walkFrom stack.reverse
    rwa [List.reverse_reverse] at h

/-! ## The places in a shape -/

/-- The shape at a place: the place says which child to go to, time after time. -/
def descend? : Shape → List Nat → Option Shape
  | s, [] => some s
  | s, i :: place => s.children[i]? >>= fun c => c.descend? place

/-- The shape at a place below one of several shapes; the first number says which one. -/
def descendFrom? (ss : List Shape) : List Nat → Option Shape
  | [] => none
  | i :: place => ss[i]? >>= fun s => s.descend? place

/-- The list has what is found at every place once, next to the place, and the places increase. -/
structure Enumerates (find : List Nat → Option Shape) (listed : List (List Nat × Shape)) :
    Prop where
  mem_iff : ∀ place s, (place, s) ∈ listed ↔ find place = some s
  increasing : listed.Pairwise fun x y => x.1 < y.1

/-- With one more shape at the end there are the places from before, and those of the shape. -/
theorem descendFrom?_append_singleton {ss : List Shape} {s n : Shape} {place : List Nat} :
    descendFrom? (ss ++ [s]) place = some n ↔
      descendFrom? ss place = some n ∨
        ∃ rest, place = ss.length :: rest ∧ s.descend? rest = some n := by
  cases place with
  | nil => simp [descendFrom?]
  | cons i rest =>
    simp only [descendFrom?, List.cons.injEq]
    rcases lt_trichotomy i ss.length with hi | rfl | hi
    · rw [List.getElem?_append_left hi]
      simp [hi.ne]
    · rw [List.getElem?_concat_length, List.getElem?_eq_none le_rfl]
      simp
    · have hend : (ss ++ [s]).length ≤ i := by
        rw [List.length_append]
        exact hi
      rw [List.getElem?_eq_none hend, List.getElem?_eq_none hi.le]
      simp [hi.ne']

theorem lt_length_of_descendFrom? {ss : List Shape} {i : Nat} {rest : List Nat} {n : Shape}
    (h : descendFrom? ss (i :: rest) = some n) : i < ss.length := by
  obtain ⟨s, hs, -⟩ := Option.bind_eq_some_iff.mp h
  exact (List.getElem?_eq_some_iff.mp hs).1

/-- The places of one more shape at the end come after all others. -/
theorem Enumerates.append_singleton {ss : List Shape} {s : Shape}
    {listed more : List (List Nat × Shape)} (h : Enumerates (descendFrom? ss) listed)
    (hs : Enumerates s.descend? more) :
    Enumerates (descendFrom? (ss ++ [s]))
      (listed ++ more.map fun x => (ss.length :: x.1, x.2)) where
  mem_iff place n := by
    rw [List.mem_append, h.mem_iff, descendFrom?_append_singleton]
    refine or_congr_right ⟨fun hmem => ?_, ?_⟩
    · obtain ⟨⟨rest, m⟩, hmore, heq⟩ := List.mem_map.mp hmem
      obtain ⟨rfl, rfl⟩ := Prod.mk.inj heq
      exact ⟨rest, rfl, (hs.mem_iff rest m).mp hmore⟩
    · rintro ⟨rest, rfl, hn⟩
      exact List.mem_map.mpr ⟨(rest, n), (hs.mem_iff rest n).mpr hn, rfl⟩
  increasing := by
    refine List.pairwise_append.mpr ⟨h.increasing, ?_, ?_⟩
    · rw [List.pairwise_map]
      exact hs.increasing.imp fun hlt => List.cons_lt_cons_iff.mpr (Or.inr ⟨rfl, hlt⟩)
    · rintro ⟨place, n⟩ hplace y hy
      obtain ⟨x, -, rfl⟩ := List.mem_map.mp hy
      have hn := (h.mem_iff place n).mp hplace
      cases place with
      | nil => cases hn
      | cons i rest =>
        exact List.cons_lt_cons_iff.mpr (Or.inl (lt_length_of_descendFrom? hn))

/-- A shape stands at the place that goes nowhere, before all places below it. -/
theorem Enumerates.cons {s : Shape} {listed : List (List Nat × Shape)}
    (h : Enumerates (descendFrom? s.children) listed) :
    Enumerates s.descend? (([], s) :: listed) where
  mem_iff place n := by
    rw [List.mem_cons, h.mem_iff]
    cases place with
    | nil => simp [descend?, descendFrom?, eq_comm]
    | cons i rest => simp [descend?, descendFrom?]
  increasing := by
    refine List.pairwise_cons.mpr ⟨?_, h.increasing⟩
    rintro ⟨place, n⟩ hplace
    have hn := (h.mem_iff place n).mp hplace
    cases place with
    | nil => cases hn
    | cons i rest => exact List.nil_lt_cons i rest

/-- Where each of several shapes is enumerated by its preorder, all of them are by one preorder after
the other. -/
theorem exists_enumeration_of_forall (ss : List Shape)
    (h : ∀ s ∈ ss, ∃ listed, Enumerates s.descend? listed ∧ listed.map (·.2) = s.preorder) :
    ∃ listed, Enumerates (descendFrom? ss) listed ∧ listed.map (·.2) = ss.flatMap preorder := by
  -- from the right, so that the numbers of the shapes before stay what they are
  induction ss using List.reverseRecOn with
  | nil =>
    refine ⟨[], ⟨fun place n => ?_, .nil⟩, rfl⟩
    cases place <;> simp [descendFrom?]
  | append_singleton ss s ih =>
    obtain ⟨listed, henum, hlisted⟩ := ih fun t ht => h t (List.mem_append_left _ ht)
    obtain ⟨more, hmore, hpreorder⟩ := h s (List.mem_append_right _ (List.mem_singleton_self s))
    refine ⟨_, henum.append_singleton hmore, ?_⟩
    rw [List.map_append, List.map_map, hlisted, List.flatMap_append, List.flatMap_singleton,
      ← hpreorder]
    rfl

/-- The preorder lists what stands at every place of a shape, in the order of the places. -/
theorem exists_enumeration (s : Shape) :
    ∃ listed, Enumerates s.descend? listed ∧ listed.map (·.2) = s.preorder := by
  induction s using rec_children with
  | step s ih =>
    obtain ⟨listed, henum, hlisted⟩ := exists_enumeration_of_forall s.children ih
    refine ⟨([], s) :: listed, henum.cons, ?_⟩
    rw [List.map_cons, hlisted, preorder_eq]

/-! ## The names on the way -/

/-- The names that are written at a shape: its own if it is a reference, then those that its
discriminator selects. -/
def namesAt : Shape → List String
  | .ref t name => name :: t.selected
  | s => s.traits.selected

theorem ownReferences_eq (s : Shape) : s.ownReferences = s.namesAt := by
  cases s <;> rfl

/-- **The walk is the preorder traversal.**  What the walk of a shape lists is the shape, then what
the same recursion lists of its children in their order.  A loop over a stack, on which the children
are put in reverse, ends and lists this and nothing else.  The list has the shape at every place
once, in the order of the places, and the references are the names written at these shapes, in the
same order. -/
theorem walk_in_preorder (s : Shape) :
    s.walk = s.preorder ∧
      (∀ listed, Unstacks [s] listed ↔ listed = s.preorder) ∧
      (∃ listed, Enumerates s.descend? listed ∧ listed.map (·.2) = s.walk) ∧
      s.references = s.collect namesAt := by
  refine ⟨walk_eq_preorder s, fun listed => ?_, ?_, ?_⟩
  · rw [unstacks_iff, List.reverse_singleton, ← walk, walk_eq_preorder]
  · rw [walk_eq_preorder]
    exact exists_enumeration s
  · rw [references, walk_eq_preorder, collect_eq_flatMap]
    exact List.flatMap_congr fun n _ => ownReferences_eq n

example :
    (object .none
      [⟨"owner", .array .none (.ref .none "User"), true, .none⟩,
        ⟨"toy", .composition .none .oneOf [.ref .none "Ball", .ref .none "Ball"], false, .none⟩]
      (some (.negation .none (.ref .none "Food")))).references =
      ["User", "Ball", "Ball", "Food"] := by
  cbv

end Shape
end ApiCompiler
