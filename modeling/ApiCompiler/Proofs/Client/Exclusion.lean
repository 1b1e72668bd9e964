import ApiCompiler.Client
import Mathlib

/-!
# Files that are left out

A client lists files and directories below its own directory that are never written.  This file says
which paths are left out by such a list.

Paths are compared by their lexical meaning, as the names from the root with two points taken back.
A path is left out if an entry, read from the directory of the client, is the path or one of its
ancestors, as long as the entry goes down only.  But what is compared is not the meaning of the
entry.  The target is turned into the names that lead to it from the directory, and the names of the
entry, as they are written, have to be the first of these.  So an entry that goes up and down again
leaves nothing out, and neither does a single point; and the entry of two points leaves out the parent
of the directory, which does not lie below it (`excludes_exact`).
-/

namespace ApiCompiler
namespace Path

/-! ## Two points -/

theorem takeBack_append_singleton (names : List String) (n : String) :
    takeBack (names ++ [n]) = if n = ".." then (takeBack names).tail else n :: takeBack names := by
  rw [takeBack, List.foldl_append, List.foldl_cons, List.foldl_nil]
  rfl

/-- Two points are never left. -/
theorem not_mem_resolvedNames (names : List String) : ".." ∉ resolvedNames names := by
  rw [resolvedNames, List.mem_reverse]
  induction names using List.reverseRecOn with
  | nil => exact List.not_mem_nil
  | append_singleton names n ih =>
    rw [takeBack_append_singleton]
    split
    · exact fun h => ih (List.mem_of_mem_tail h)
    · case isFalse hn => exact fun h => (List.mem_cons.mp h).elim (fun heq => hn heq.symm) ih

/-- Names without two points only lead further down. -/
theorem resolvedNames_append (names : List String) {below : List String} (h : ".." ∉ below) :
    resolvedNames (names ++ below) = resolvedNames names ++ below := by
  induction below using List.reverseRecOn with
  | nil => rw [List.append_nil, List.append_nil]
  | append_singleton below n ih =>
    rw [List.mem_append, List.mem_singleton, not_or] at h
    have hstep : resolvedNames (names ++ below ++ [n]) = resolvedNames (names ++ below) ++ [n] := by
      rw [resolvedNames, takeBack_append_singleton, if_neg fun heq => h.2 heq.symm,
        List.reverse_cons, resolvedNames]
    rw [← List.append_assoc, hstep, ih h.1, List.append_assoc]

/-- A relative path is read from another one by going on from its names. -/
theorem resolved_join (current base : Path) {p : Path} (hp : p.isAbsolute = false) :
    current.resolved (base.join p) = resolvedNames ((current.join base).names ++ p.names) := by
  have hjoin : base.join p = ⟨base.slashes, base.names ++ p.names⟩ := by
    rw [join, hp, if_neg Bool.false_ne_true]
  rw [resolved, hjoin]
  unfold join isAbsolute
  dsimp only
  split
  · rfl
  · rw [List.append_assoc]

/-! ## From one path to another -/

theorem withoutShared_append (shared as bs : List String) :
    withoutShared (shared ++ as) (shared ++ bs) = withoutShared as bs := by
  induction shared with
  | nil => rfl
  | cons n shared ih => rw [List.cons_append, List.cons_append, withoutShared, if_pos rfl, ih]

theorem exists_shared (as bs : List String) :
    ∃ shared, as = shared ++ (withoutShared as bs).1 ∧ bs = shared ++ (withoutShared as bs).2 := by
  induction as generalizing bs with
  | nil => exact ⟨[], by simp [withoutShared]⟩
  | cons a as ih =>
    cases bs with
    | nil => exact ⟨[], rfl, rfl⟩
    | cons b bs =>
      rw [withoutShared]
      split
      · case isTrue hab =>
        obtain ⟨shared, has, hbs⟩ := ih bs
        exact ⟨a :: shared, congrArg (a :: ·) has, hab ▸ congrArg (a :: ·) hbs⟩
      · exact ⟨[], rfl, rfl⟩

/-- What lies below a path is reached by going down. -/
theorem relative_append (start below : List String) : relative (start ++ below) start = below := by
  have hshared := withoutShared_append start [] below
  rw [List.append_nil] at hshared
  rw [relative, hshared]
  cases below <;> rfl

/-- The parent of a path is reached by two points. -/
theorem relative_parent (target : List String) (n : String) :
    relative target (target ++ [n]) = [".."] := by
  have hshared := withoutShared_append target [n] []
  rw [List.append_nil] at hshared
  rw [relative, hshared]
  rfl

/-- What is not below a path is reached by going up, and by nothing else only if it is the parent. -/
theorem relative_of_outside {target start : List String} (h : ¬ start <+: target) :
    ∃ more, relative target start = ".." :: more ∧ (more = [] → ∃ n, start = target ++ [n]) := by
  obtain ⟨shared, hstart, htarget⟩ := exists_shared start target
  rw [relative]
  generalize withoutShared start target = parts at hstart htarget
  obtain ⟨up, down⟩ := parts
  cases up with
  | nil =>
    refine absurd ⟨down, ?_⟩ h
    rw [hstart, htarget, List.append_nil]
  | cons n up =>
    refine ⟨up.map (fun _ => "..") ++ down, rfl, fun hmore => ⟨n, ?_⟩⟩
    obtain ⟨hup, rfl⟩ := List.append_eq_nil_iff.mp hmore
    obtain rfl := List.map_eq_nil_iff.mp hup
    rw [hstart, htarget, List.append_nil]

end Path

namespace Client

variable (c : Client) (current : Path)

/-! ## Entries -/

/-- A path lies below the directory of a client. -/
def IsBelow (target : Path) : Prop :=
  ∃ n rest, current.resolved target = current.resolved c.directory ++ n :: rest

/-- A path is the parent of the directory of a client. -/
def IsParent (target : Path) : Prop :=
  ∃ n, current.resolved c.directory = current.resolved target ++ [n]

/-- An entry, read from the directory of a client, is a path or one of its ancestors. -/
def Covers (entry : String) (target : Path) : Prop :=
  current.resolved (c.directory.join (.ofString entry)) <+: current.resolved target

/-- A path is below the directory of a client and covered by an entry that is a relative path. -/
def IsListed (target : Path) : Prop :=
  c.IsBelow current target ∧
    ∃ e ∈ c.exclude, e ≠ "" ∧ (Path.ofString e).isAbsolute = false ∧ c.Covers current e target

/-- An entry is a relative path of some names, none of them two points. -/
structure GoesDown (entry : String) : Prop where
  relative : (Path.ofString entry).isAbsolute = false
  named : (Path.ofString entry).names ≠ []
  down : ".." ∉ (Path.ofString entry).names

theorem ofString_empty : Path.ofString "" = ⟨0, []⟩ := by
  cbv

theorem GoesDown.ne_empty {entry : String} (h : GoesDown entry) : entry ≠ "" := by
  rintro rfl
  exact h.named (by rw [ofString_empty])

theorem leavesOut_iff (names : List String) (entry : String) :
    leavesOut names entry = true ↔ (Path.ofString entry).isAbsolute = false ∧
      (Path.ofString entry).names ≠ [] ∧ (Path.ofString entry).names <+: names := by
  simp only [leavesOut, Bool.and_eq_true, Bool.not_eq_true', List.isEmpty_eq_false_iff,
    List.isPrefixOf_iff_prefix, and_assoc]

variable {c current} {target : Path}

/-- Below the directory the written names of an entry have to be those that lead to the target. -/
theorem excludes_below {below : List String}
    (h : current.resolved target = current.resolved c.directory ++ below) :
    c.excludes current target = true ↔
      ∃ e ∈ c.exclude, GoesDown e ∧ c.Covers current e target := by
  have hdown : ".." ∉ below := by
    intro hmem
    refine Path.not_mem_resolvedNames (current.join target).names ?_
    rw [← Path.resolved, h]
    exact List.mem_append_right _ hmem
  have hinside : (!(below.length > 1 && below.head? = some "..")) = true := by
    have hhead : below.head? ≠ some ".." := fun hhead => hdown (List.mem_of_head? hhead)
    simp [hhead]
  rw [excludes, h, Path.relative_append, hinside, Bool.true_and, List.any_eq_true]
  refine exists_congr fun e => and_congr_right fun _ => ?_
  rw [leavesOut_iff]
  -- an entry that goes down is read from the directory by appending its names
  have hcovers : GoesDown e → (c.Covers current e target ↔ (Path.ofString e).names <+: below) := by
    intro he
    rw [Covers, Path.resolved_join _ _ he.relative, Path.resolvedNames_append _ he.down, h,
      Path.resolved, List.prefix_append_right_inj]
  constructor
  · rintro ⟨hrelative, hnamed, hstart⟩
    have he : GoesDown e := ⟨hrelative, hnamed, fun hmem => hdown (hstart.subset hmem)⟩
    exact ⟨he, (hcovers he).mpr hstart⟩
  · rintro ⟨he, hstart⟩
    exact ⟨he.relative, he.named, (hcovers he).mp hstart⟩

/-- Outside the directory only its parent can be left out, by the entry of two points. -/
theorem excludes_outside (h : ¬ current.resolved c.directory <+: current.resolved target) :
    c.excludes current target = true ↔
      c.IsParent current target ∧ ∃ e ∈ c.exclude, Path.ofString e = ⟨0, [".."]⟩ := by
  obtain ⟨more, hrelative, hparent⟩ := Path.relative_of_outside h
  rw [excludes, hrelative]
  cases more with
  | cons n more =>
    refine iff_of_false (by simp) ?_
    rintro ⟨⟨m, hm⟩, -⟩
    rw [hm, Path.relative_parent] at hrelative
    cases hrelative
  | nil =>
    have hinside : (!([".."].length > 1 && [".."].head? = some "..")) = true := by decide
    rw [hinside, Bool.true_and, List.any_eq_true,
      and_iff_right (show c.IsParent current target from hparent rfl)]
    refine exists_congr fun e => and_congr_right fun _ => ?_
    rw [leavesOut_iff]
    generalize Path.ofString e = p
    obtain ⟨slashes, names⟩ := p
    simp only [Path.isAbsolute, ne_eq, decide_eq_false_iff_not, Decidable.not_not, Path.mk.injEq]
    refine and_congr_right fun _ => ⟨?_, ?_⟩
    · rintro ⟨hne, hstart⟩
      rcases List.prefix_cons_iff.mp hstart with rfl | ⟨rest, rfl, hrest⟩
      · exact absurd rfl hne
      · rw [List.prefix_nil.mp hrest]
    · rintro rfl
      exact ⟨List.cons_ne_nil _ _, List.prefix_refl _⟩

theorem not_isParent_of_inside (h : current.resolved c.directory <+: current.resolved target) :
    ¬ c.IsParent current target := by
  rintro ⟨n, hn⟩
  have hlength := h.length_le
  rw [hn, List.length_append, List.length_singleton] at hlength
  omega

/-- An entry that goes down covers paths below the directory only. -/
theorem GoesDown.isBelow {e : String} (he : GoesDown e) (h : c.Covers current e target) :
    c.IsBelow current target := by
  obtain ⟨rest, hrest⟩ := h
  rw [Path.resolved_join _ _ he.relative, Path.resolvedNames_append _ he.down] at hrest
  cases hnames : (Path.ofString e).names with
  | nil => exact absurd hnames he.named
  | cons n names =>
    rw [hnames, List.append_assoc] at hrest
    exact ⟨n, names ++ rest, hrest.symm⟩

/-- Two points do not go down. -/
theorem not_goesDown_of_twoPoints {e : String} (h : Path.ofString e = ⟨0, [".."]⟩) :
    ¬ GoesDown e := by
  intro he
  have hdown := he.down
  rw [h] at hdown
  exact hdown (List.mem_singleton_self _)

variable (c current target)

/-- What is left out lies below the directory or is its parent. -/
theorem excludes_iff :
    c.excludes current target = true ↔
      (c.IsBelow current target ∧ ∃ e ∈ c.exclude, GoesDown e ∧ c.Covers current e target) ∨
        (c.IsParent current target ∧ ∃ e ∈ c.exclude, Path.ofString e = ⟨0, [".."]⟩) := by
  by_cases h : current.resolved c.directory <+: current.resolved target
  · obtain ⟨below, hbelow⟩ := id h
    rw [excludes_below hbelow.symm]
    constructor
    · rintro ⟨e, hmem, he, hcovers⟩
      exact Or.inl ⟨he.isBelow hcovers, e, hmem, he, hcovers⟩
    · rintro (⟨-, hlisted⟩ | ⟨hparent, -⟩)
      · exact hlisted
      · exact absurd hparent (not_isParent_of_inside h)
  · rw [excludes_outside h]
    constructor
    · exact Or.inr
    · rintro (⟨⟨n, rest, hbelow⟩, -⟩ | hparent)
      · exact absurd ⟨n :: rest, hbelow.symm⟩ h
      · exact hparent

/-- **Files that are left out.**  A path is left out exactly if it lies below the directory of the
client and is covered by an entry that goes down, or if it is the parent of the directory and the
entry of two points is listed.  So where every relative entry goes down, the paths that are left out
are those below the directory that an entry covers. -/
theorem excludes_exact :
    (c.excludes current target = true ↔
      (c.IsBelow current target ∧ ∃ e ∈ c.exclude, GoesDown e ∧ c.Covers current e target) ∨
        (c.IsParent current target ∧ ∃ e ∈ c.exclude, Path.ofString e = ⟨0, [".."]⟩)) ∧
      ((∀ e ∈ c.exclude, e ≠ "" → (Path.ofString e).isAbsolute = false → GoesDown e) →
        (c.excludes current target = true ↔ c.IsListed current target)) := by
  refine ⟨excludes_iff c current target, fun hdown => ?_⟩
  rw [excludes_iff]
  constructor
  · rintro (⟨hbelow, e, hmem, he, hcovers⟩ | ⟨-, e, hmem, he⟩)
    · exact ⟨hbelow, e, hmem, he.ne_empty, he.relative, hcovers⟩
    · refine absurd (hdown e hmem ?_ (by rw [he]; rfl)) (not_goesDown_of_twoPoints he)
      rintro rfl
      rw [ofString_empty] at he
      cases he
  · rintro ⟨hbelow, e, hmem, hne, hrelative, hcovers⟩
    exact Or.inl ⟨hbelow, e, hmem, hdown e hmem hne hrelative, hcovers⟩

/-! ## Entries that do not go down -/

namespace Drafts

/-- A client whose files go to the directory `out`. -/
def client (exclude : List String) : Client :=
  ⟨"typescript", "out", "@acme/api", none, "web", [], [], .operation, none, [], [], none, exclude⟩

def here : Path := ⟨1, ["work"]⟩

def manifest : Path := .ofString "out/manifest.json"

/-- Two points leave out the directory of the run, which is not below that of the client.  An entry
that passes through a directory of drafts is the manifest, and a single point is the directory of the
client, but neither of them leaves the manifest out. -/
theorem entries_misread :
    (¬ ∀ (c : Client) (current target : Path),
      c.excludes current target = true ↔ c.IsListed current target) ∧
      ((client [".."]).excludes here .current = true ∧ ¬ (client [".."]).IsBelow here .current) ∧
      ((client ["drafts/../manifest.json"]).excludes here manifest = false ∧
        (client ["drafts/../manifest.json"]).IsListed here manifest) ∧
      ((client ["."]).excludes here manifest = false ∧ (client ["."]).IsListed here manifest) := by
  have hparent : (client [".."]).excludes here .current = true := by cbv
  have hnot : ¬ (client [".."]).IsBelow here .current := by
    rintro ⟨n, rest, h⟩
    have hhere : here.resolved .current = ["work"] := by cbv
    have hdirectory : here.resolved (client [".."]).directory = ["work", "out"] := by cbv
    rw [hhere, hdirectory] at h
    cases h
  have hbelow : ∀ exclude, (client exclude).IsBelow here manifest :=
    fun exclude => ⟨"manifest.json", [], by cbv⟩
  have hdrafts : (client ["drafts/../manifest.json"]).IsListed here manifest :=
    ⟨hbelow _, _, List.mem_singleton_self _, by decide, by cbv, [], by cbv⟩
  have hpoint : (client ["."]).IsListed here manifest :=
    ⟨hbelow _, _, List.mem_singleton_self _, by decide, by cbv, ["manifest.json"], by cbv⟩
  exact ⟨fun h => hnot ((h _ _ _).mp hparent).1, ⟨hparent, hnot⟩, ⟨by cbv, hdrafts⟩,
    ⟨by cbv, hpoint⟩⟩

/-- A directory that is listed with a slash at its end leaves out the files in it. -/
theorem custom_excluded :
    (∀ e ∈ (client ["manifest.json", "custom/"]).exclude, e ≠ "" →
      (Path.ofString e).isAbsolute = false → GoesDown e) ∧
      (client ["manifest.json", "custom/"]).IsListed here (.ofString "out/custom/api.ts") ∧
      (client ["manifest.json", "custom/"]).excludes here (.ofString "out/custom/api.ts") = true := by
  have hmanifest : Path.ofString "manifest.json" = ⟨0, ["manifest.json"]⟩ := by cbv
  have hcustom : Path.ofString "custom/" = ⟨0, ["custom"]⟩ := by cbv
  have hdown : ∀ e ∈ (client ["manifest.json", "custom/"]).exclude, e ≠ "" →
      (Path.ofString e).isAbsolute = false → GoesDown e := by
    intro e he _ hrelative
    simp only [client, List.mem_cons, List.not_mem_nil, or_false] at he
    rcases he with rfl | rfl
    · exact ⟨hrelative, by rw [hmanifest]; decide, by rw [hmanifest]; decide⟩
    · exact ⟨hrelative, by rw [hcustom]; decide, by rw [hcustom]; decide⟩
  have hlisted : (client ["manifest.json", "custom/"]).IsListed here
      (.ofString "out/custom/api.ts") :=
    ⟨⟨"custom", ["api.ts"], by cbv⟩, "custom/", by simp [client], by decide, by cbv, ["api.ts"],
      by cbv⟩
  exact ⟨hdown, hlisted, ((excludes_exact _ _ _).2 hdown).mpr hlisted⟩

end Drafts
end Client
end ApiCompiler
