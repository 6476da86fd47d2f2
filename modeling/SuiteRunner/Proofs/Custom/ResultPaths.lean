import SuiteRunner.Custom.ResultPath
import SuiteRunner.Proofs.Json.Numbers
import SuiteRunner.Proofs.Text.Cutting

/-!
  SuiteRunner.Proofs.Custom.ResultPaths
  ────────────────────────────────
  **PATHS INTO RESULTS ARE FOLLOWED STEP BY STEP.**

  A dot ends a segment wherever it stands, and empty segments are left out.  So the segments of two
  paths with a dot between them are those of the one and then those of the other, and a path is
  followed as far as the first and from there along the second.  A key without dots is a segment of
  its own, and so are the digits of a position:

    • `pathSegments_dot` — the segments of two paths with a dot between them,
    • `pathSegments_intercalate` — texts without dots are the segments of the path made of them,
    • `descendantAt?_append` — segments are followed one after another,
    • `Reached.descendantAt?_eq` — what keys and positions lead to is found under their segments,
    • `paths_compose` — **so paths compose, and every part that can be written down is found.**
-/

namespace SuiteRunner

/-! ## §1. Segments. -/

/-- **The segments of two paths with a dot between them.** -/
theorem pathSegments_dot (p q : String) :
    pathSegments (p ++ "." ++ q) = pathSegments p ++ pathSegments q := by
  have hlist : (p ++ "." ++ q).toList = p.toList ++ '.' :: q.toList := by
    simp only [String.toList_append, List.append_assoc]
    rfl
  unfold pathSegments Text.split
  rw [hlist, show ".".toList = ['.'] from rfl, Text.splitChars_append, List.map_append,
    List.filter_append]

theorem pathSegments_empty : pathSegments "" = [] := rfl

/-- Nothing but dots. -/
def dots (n : Nat) : String := String.ofList (List.replicate n '.')

theorem dots_succ (n : Nat) : dots (n + 1) = "." ++ dots n :=
  String.toList_injective (by simp [dots, List.replicate_succ])

/-- Dots in front of a path do not count. -/
theorem pathSegments_after_dots (n : Nat) (p : String) :
    pathSegments (dots n ++ p) = pathSegments p := by
  induction n with
  | zero =>
    show pathSegments ("" ++ p) = _
    rw [String.empty_append]
  | succ n ih =>
    have hdot := pathSegments_dot "" (dots n ++ p)
    rw [String.empty_append, pathSegments_empty, List.nil_append, ih] at hdot
    rw [dots_succ, String.append_assoc]
    exact hdot

theorem pathSegments_dots (n : Nat) : pathSegments (dots n) = [] := by
  have hdots := pathSegments_after_dots n ""
  rwa [String.append_empty] at hdots

/-- Dots behind a path do not change its parts. -/
theorem pathSegments_before_dots (n : Nat) (p : String) :
    pathSegments (p ++ dots n) = pathSegments p := by
  cases n with
  | zero =>
    show pathSegments (p ++ "") = _
    rw [String.append_empty]
  | succ n =>
    rw [dots_succ, ← String.append_assoc, pathSegments_dot, pathSegments_dots, List.append_nil]

/-- Between two paths one dot is as good as more. -/
theorem pathSegments_between_dots (n : Nat) (p q : String) :
    pathSegments (p ++ dots (n + 1) ++ q) = pathSegments (p ++ "." ++ q) := by
  have hassoc : p ++ dots (n + 1) ++ q = p ++ "." ++ (dots n ++ q) := by
    rw [dots_succ, ← String.append_assoc, String.append_assoc]
  rw [hassoc, pathSegments_dot, pathSegments_after_dots, ← pathSegments_dot]

/-- **Texts without dots are the segments of the path that is made of them,** unless one is
empty. -/
theorem pathSegments_intercalate {segments : List String}
    (h : ∀ s ∈ segments, s ≠ "" ∧ '.' ∉ s.toList) :
    pathSegments (".".intercalate segments) = segments := by
  cases segments with
  | nil => rfl
  | cons s rest =>
    have hlist : (".".intercalate (s :: rest)).toList
        = ['.'].intercalate ((s :: rest).map String.toList) := String.toList_intercalate
    have hpieces : ∀ piece ∈ (s :: rest).map String.toList, '.' ∉ piece := by
      intro piece hpiece
      obtain ⟨t, ht, rfl⟩ := List.mem_map.mp hpiece
      exact (h t ht).2
    unfold pathSegments Text.split
    rw [hlist, show ".".toList = ['.'] from rfl, Text.splitChars_intercalate List.mem_cons_self
      (by simp) hpieces, List.map_map]
    have hback : (s :: rest).map (String.ofList ∘ String.toList) = s :: rest :=
      List.map_id'' (fun t => String.ofList_toList) _
    rw [hback]
    refine List.filter_eq_self.mpr fun t ht => ?_
    simpa using (h t ht).1

/-! ## §2. Following segments. -/

/-- **Segments are followed one after another.** -/
theorem descendantAt?_append (v : Json) (s t : List String) :
    descendantAt? v (s ++ t) = (descendantAt? v s).bind fun w => descendantAt? w t := by
  unfold descendantAt?
  rw [List.foldlM_append]
  rfl

/-- A step into a document: under a key, or to a position of 64 bits. -/
inductive PathStep where
  | key (k : String)
  | position (i : UInt64)

/-- The segment for a step; a position is written in decimal. -/
def PathStep.segment : PathStep → String
  | .key k => k
  | .position i => toString i.toNat

/-- **The parts that keys and positions lead to,** as long as no key is empty or has a dot. -/
inductive Reached : Json → List PathStep → Json → Prop
  | here (v : Json) : Reached v [] v
  | key {members : List (String × Json)} {k : String} {child w : Json} {steps : List PathStep}
      (nonempty : k ≠ "") (undotted : '.' ∉ k.toList) (found : Json.lookup? k members = some child)
      (rest : Reached child steps w) : Reached (.obj members) (.key k :: steps) w
  | position {items : List Json} {i : UInt64} {child w : Json} {steps : List PathStep}
      (found : items[i.toNat]? = some child) (rest : Reached child steps w) :
      Reached (.arr items) (.position i :: steps) w

theorem natOfText?_position (i : UInt64) :
    natOfText? 0xffffffffffffffff (toString i.toNat) = some i.toNat :=
  natOfText?_eq_some_iff.mpr ⟨numeralOf_natText i.toNat, Nat.le_of_lt_succ i.toNat_lt⟩

/-- **What keys and positions lead to is found under their segments.** -/
theorem Reached.descendantAt?_eq {v w : Json} {steps : List PathStep} (h : Reached v steps w) :
    descendantAt? v (steps.map PathStep.segment) = some w := by
  induction h with
  | here v => rfl
  | @key members k child w steps nonempty undotted found rest ih =>
    show (Json.lookup? k members).bind (fun u => descendantAt? u (steps.map _)) = some w
    rw [found]
    exact ih
  | @position items i child w steps found rest ih =>
    show ((natOfText? 0xffffffffffffffff (toString i.toNat)).bind fun n => items[n]?).bind
      (fun u => descendantAt? u (steps.map _)) = some w
    rw [natOfText?_position, Option.bind_some, found]
    exact ih

/-- The segments of steps are not empty and have no dots. -/
theorem Reached.segments_plain {v w : Json} {steps : List PathStep} (h : Reached v steps w) :
    ∀ s ∈ steps.map PathStep.segment, s ≠ "" ∧ '.' ∉ s.toList := by
  induction h with
  | here v => simp
  | @key members k child w steps nonempty undotted found rest ih =>
    exact List.forall_mem_cons.mpr ⟨⟨nonempty, undotted⟩, ih⟩
  | @position items i child w steps found rest ih =>
    refine List.forall_mem_cons.mpr ⟨⟨?_, ?_⟩, ih⟩
    · intro hempty
      exact digitsOf_ne_nil i.toNat (by rw [← toList_natText]; exact congrArg String.toList hempty)
    · intro hdot
      rw [show (PathStep.position i).segment = toString i.toNat from rfl, toList_natText] at hdot
      exact absurd (isDigit_of_mem_digitsOf hdot) (by decide)

/-! ## §3. Paths. -/

/-- **PATHS COMPOSE.**  A path that is made of two with a dot between them selects what the second
selects in what the first does, and nothing if the first selects nothing.  Any number of dots may
stand in front of a path or behind it, and one or more in it between two segments.  And what keys
and positions lead to, a leaf or not, is what the path of these keys and decimal numbers selects,
if no key is empty or has a dot. -/
theorem paths_compose (v : Json) :
    (∀ p q, resultAt? v (p ++ "." ++ q) = (resultAt? v p).bind fun w => resultAt? w q) ∧
    (∀ n p q, resultAt? v (dots n ++ p) = resultAt? v p ∧
      resultAt? v (p ++ dots n) = resultAt? v p ∧
      resultAt? v (p ++ dots (n + 1) ++ q) = resultAt? v (p ++ "." ++ q)) ∧
    ∀ steps w, Reached v steps w →
      resultAt? v (".".intercalate (steps.map PathStep.segment)) = some w := by
  refine ⟨fun p q => ?_, fun n p q => ⟨?_, ?_, ?_⟩, fun steps w hreached => ?_⟩
  · unfold resultAt?
    rw [pathSegments_dot, descendantAt?_append]
  · unfold resultAt?
    rw [pathSegments_after_dots]
  · unfold resultAt?
    rw [pathSegments_before_dots]
  · unfold resultAt?
    rw [pathSegments_between_dots]
  · unfold resultAt?
    rw [pathSegments_intercalate hreached.segments_plain]
    exact hreached.descendantAt?_eq

/-- The roles of a user whose key is a number. -/
def userRoles : Json := .obj [("user", .obj [("7", .arr [.str "admin", .str "ops"])])]

/-- A number may be a key as well as a position, and dots that do not count may stand anywhere. -/
theorem paths_compose_userRoles :
    Reached userRoles [.key "user", .key "7", .position 1] (.str "ops") ∧
    resultAt? userRoles "user.7.1" = some (.str "ops") ∧
    resultAt? userRoles "..user.7.1" = some (.str "ops") ∧
    (resultAt? userRoles "user.7").bind (resultAt? · "1") = some (.str "ops") := by
  have hreached : Reached userRoles [.key "user", .key "7", .position 1] (.str "ops") :=
    .key (by decide) (by decide) rfl <| .key (by decide) (by decide) rfl <| .position rfl (.here _)
  obtain ⟨hcompose, hdots, hfound⟩ := paths_compose userRoles
  have hops : resultAt? userRoles "user.7.1" = some (.str "ops") := hfound _ _ hreached
  have hbefore := (hdots 2 "user.7.1" "").1.trans hops
  exact ⟨hreached, hops, hbefore, (hcompose "user.7" "1").symm.trans hops⟩

end SuiteRunner
