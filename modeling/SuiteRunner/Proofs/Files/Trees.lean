import SuiteRunner.Files.Tree

/-!
  SuiteRunner.Proofs.Files.Trees
  ────────────────────────────────
  **PATHS, AND WHAT IS BELOW A DIRECTORY.**

  What an entry of a directory may be called is never empty, has no slash in it and is none of the
  two names with dots.  Such names, with slashes between them and a directory in front, make a path
  that says the same again:

    • `Path.names_joined` — names with slashes between them are given back,
    • `Path.names_below` — the names of a path below a directory are those of the directory, then
      more,
    • `Path.nameExtension?_eq_some_iff` — an extension follows the last dot, and something is before
      it.

  A list of places stands for a tree if no place is in it twice, if names are names, and if nothing
  is below a file.  Then everything that is said about the files below a directory is said about
  places, and a path made of their names leads to them:

    • `FileTree.ProperBelow.mem_filesBelow` — the files below a place are those of which the places
      begin with it,
    • `FileTree.ProperBelow.sorted_filesBelow` — each is there once, in the order of the names,
    • `FileTree.ProperBelow.placeOf_below` — a path below a directory leads to the place below that
      of the directory,
    • `FileTree.ProperBelow.read_below` — and what is read there is what is in the file.
-/

namespace SuiteRunner

namespace Path

/-! ## §1. Names. -/

/-- What an entry of a directory may be called. -/
structure IsName (name : String) : Prop where
  nonempty : name ≠ ""
  noSlash : '/' ∉ name.toList
  notHere : name ≠ "."
  notAbove : name ≠ ".."

instance (name : String) : Decidable (IsName name) :=
  decidable_of_iff (name ≠ "" ∧ '/' ∉ name.toList ∧ name ≠ "." ∧ name ≠ "..")
    ⟨fun ⟨h₁, h₂, h₃, h₄⟩ => ⟨h₁, h₂, h₃, h₄⟩, fun ⟨h₁, h₂, h₃, h₄⟩ => ⟨h₁, h₂, h₃, h₄⟩⟩

/-- A name that is closed goes before all others. -/
theorem close_append (word : List Char) (a b : List String) :
    namesFrom.close word (a ++ b) = namesFrom.close word a ++ b := by
  unfold namesFrom.close
  split
  · rfl
  · rfl

/-- What is read of a word that has no slash. -/
theorem namesFrom_word {cs : List Char} (h : '/' ∉ cs) (word : List Char) :
    namesFrom word cs = namesFrom.close (cs.reverse ++ word) [] := by
  induction cs generalizing word with
  | nil => rfl
  | cons c cs ih =>
    obtain ⟨hc, hcs⟩ := not_or.mp (mt List.mem_cons.mpr h)
    rw [namesFrom.eq_3 word c cs fun hslash => hc hslash.symm, ih hcs, List.reverse_cons,
      List.append_assoc]
    rfl

/-- Names are read before and after a slash. -/
theorem namesFrom_slash (a b : List Char) (word : List Char) :
    namesFrom word (a ++ '/' :: b) = namesFrom word a ++ namesFrom [] b := by
  induction a generalizing word with
  | nil =>
    show namesFrom.close word (namesFrom [] b) = namesFrom.close word [] ++ namesFrom [] b
    exact close_append word [] (namesFrom [] b)
  | cons c a ih =>
    by_cases hc : c = '/'
    · subst hc
      show namesFrom.close word (namesFrom [] (a ++ '/' :: b))
        = namesFrom.close word (namesFrom [] a) ++ namesFrom [] b
      rw [ih, close_append]
    · rw [List.cons_append, namesFrom.eq_3 word c _ hc, namesFrom.eq_3 word c _ hc, ih]

/-- **A slash parts names:** those before it and those after it. -/
theorem names_slash (a b : String) : names (a ++ "/" ++ b) = names a ++ names b := by
  unfold names
  rw [String.toList_append, String.toList_append, List.append_assoc]
  exact namesFrom_slash a.toList b.toList []

theorem IsName.toList_ne_nil {name : String} (h : IsName name) : name.toList ≠ [] := fun hnil =>
  h.nonempty (String.toList_injective hnil)

/-- A name is the only one in itself. -/
theorem IsName.names_eq {name : String} (h : IsName name) : names name = [name] := by
  have hword : (name.toList.reverse ++ []).isEmpty = false := by
    rw [List.append_nil, List.isEmpty_reverse]
    exact List.isEmpty_eq_false_iff.mpr h.toList_ne_nil
  have hdot : (name.toList.reverse ++ [] == ['.']) = false := by
    rw [List.append_nil, beq_eq_false_iff_ne]
    intro hdot
    have hlist : name.toList = ['.'] := List.reverse_eq_iff.mp hdot
    exact h.notHere (String.toList_injective hlist)
  unfold names
  rw [namesFrom_word h.noSlash]
  unfold namesFrom.close
  rw [hword, hdot, if_neg (by decide), List.append_nil, List.reverse_reverse, String.ofList_toList]

/-- **Names with slashes between them are given back.** -/
theorem names_joined {rest : List String} (h : ∀ n ∈ rest, IsName n) :
    names ("/".intercalate rest) = rest := by
  induction rest with
  | nil => rfl
  | cons n rest ih =>
    have hn := (h n List.mem_cons_self).names_eq
    cases rest with
    | nil => rw [String.intercalate_singleton, hn]
    | cons m rest =>
      rw [String.intercalate_cons_cons, names_slash, hn, List.singleton_append,
        ih fun k hk => h k (List.mem_cons_of_mem n hk)]

/-- Names that do not lead back lead on. -/
theorem foldl_step {rest : List String} (h : ∀ n ∈ rest, n ≠ "..") (place : List String) :
    rest.foldl step place = place ++ rest := by
  induction rest generalizing place with
  | nil => exact (List.append_nil place).symm
  | cons n rest ih =>
    have hn : (n == "..") = false := beq_eq_false_iff_ne.mpr (h n List.mem_cons_self)
    have hstep : step place n = place ++ [n] := by
      unfold step
      rw [hn]
      rfl
    rw [List.foldl_cons, hstep, ih fun m hm => h m (List.mem_cons_of_mem n hm), List.append_assoc]
    rfl

/-! ## §2. Below a directory. -/

/-- The path of what some names lead to from a directory. -/
def below (dir : String) (rest : List String) : String := join dir ("/".intercalate rest)

/-- Joined names begin as the first of them does. -/
theorem head?_joined {n : String} {rest : List String} (h : IsName n) :
    ("/".intercalate (n :: rest)).toList.head? = n.toList.head? := by
  obtain ⟨c, cs, hn⟩ := List.exists_cons_of_ne_nil h.toList_ne_nil
  cases rest with
  | nil => rw [String.intercalate_singleton]
  | cons m rest =>
    rw [String.intercalate_cons_cons, String.toList_append, String.toList_append, hn]
    rfl

/-- Joined names do not begin with a slash. -/
theorem isAbsolute_joined {rest : List String} (h : ∀ n ∈ rest, IsName n) :
    isAbsolute ("/".intercalate rest) = false := by
  unfold isAbsolute
  rw [beq_eq_false_iff_ne]
  cases rest with
  | nil => rw [String.intercalate_nil]; exact fun hnone => by cases hnone
  | cons n rest =>
    have hn := h n List.mem_cons_self
    rw [head?_joined hn]
    exact fun hslash => hn.noSlash (List.mem_of_head? hslash)

/-- A path below a directory is the directory with a slash at its end, and the names. -/
theorem below_cases {dir : String} (hdir : dir ≠ "") {rest : List String}
    (h : ∀ n ∈ rest, IsName n) :
    (∃ front, dir = front ++ "/" ∧ below dir rest = front ++ "/" ++ "/".intercalate rest) ∨
      below dir rest = dir ++ "/" ++ "/".intercalate rest := by
  have hdir' : dir.isEmpty = false := String.isEmpty_eq_false_iff.mpr hdir
  unfold below join
  rw [isAbsolute_joined h, if_neg Bool.false_ne_true, hdir', Bool.false_or]
  by_cases hslash : endsInSlash dir = true
  · left
    rw [if_pos hslash]
    obtain ⟨front, hfront⟩ := List.getLast?_eq_some_iff.mp (eq_of_beq hslash)
    have hcut : dir = String.ofList front ++ "/" := by
      apply String.toList_injective
      rw [String.toList_append, String.toList_ofList, hfront]
      rfl
    exact ⟨_, hcut, congrArg (· ++ "/".intercalate rest) hcut⟩
  · right
    rw [if_neg hslash]

/-- **The names of a path below a directory are those of the directory, then more.** -/
theorem names_below {dir : String} (hdir : dir ≠ "") {rest : List String}
    (h : ∀ n ∈ rest, IsName n) : names (below dir rest) = names dir ++ rest := by
  obtain ⟨front, hfront, hbelow⟩ | hbelow := below_cases hdir h
  · have hempty : names "" = [] := rfl
    have hnames : names dir = names front := by
      rw [hfront, ← String.append_empty (s := front ++ "/"), names_slash, hempty, List.append_nil]
    rw [hbelow, names_slash, names_joined h, hnames]
  · rw [hbelow, names_slash, names_joined h]

/-- A path below a directory is not empty. -/
theorem below_ne_empty {dir : String} (hdir : dir ≠ "") {rest : List String}
    (h : ∀ n ∈ rest, IsName n) : below dir rest ≠ "" := by
  intro hempty
  have hlist := congrArg String.toList hempty
  obtain ⟨front, -, hbelow⟩ | hbelow := below_cases hdir h
  · rw [hbelow, String.toList_append, String.toList_append] at hlist
    simp at hlist
  · rw [hbelow, String.toList_append, String.toList_append] at hlist
    simp at hlist

/-- A path below a directory is absolute exactly if the directory is. -/
theorem isAbsolute_below {dir : String} (hdir : dir ≠ "") {rest : List String}
    (h : ∀ n ∈ rest, IsName n) : isAbsolute (below dir rest) = isAbsolute dir := by
  unfold isAbsolute
  have hlist : dir.toList ≠ [] := fun hnil => hdir (String.toList_injective hnil)
  obtain ⟨c, cs, hdirList⟩ := List.exists_cons_of_ne_nil hlist
  obtain ⟨front, hfront, hbelow⟩ | hbelow := below_cases hdir h
  · rw [hbelow, ← hfront, String.toList_append, hdirList]
    rfl
  · rw [hbelow, String.toList_append, String.toList_append, hdirList]
    rfl

/-- **A path below a directory leads to the place of the directory, then on by the names.** -/
theorem place_below {dir : String} (hdir : dir ≠ "") {rest : List String}
    (h : ∀ n ∈ rest, IsName n) : place (below dir rest) = place dir ++ rest := by
  have hdirect : direct (names (below dir rest)) = direct (names dir) ++ rest := by
    unfold direct
    rw [names_below hdir h, List.foldl_append, foldl_step fun n hn => (h n hn).notAbove]
  unfold place
  rw [isAbsolute_below hdir h, hdirect]
  split
  · rfl
  · rfl

/-- The last character of two texts in a row is that of the second, if it has one. -/
theorem getLast?_append_of_ne_nil {a b : List Char} (h : b ≠ []) :
    (a ++ b).getLast? = b.getLast? := by
  rw [List.getLast?_append, List.getLast?_eq_some_getLast h]
  rfl

/-- Joined names end as the last of them does. -/
theorem getLast?_joined (above : List String) {n : String} (h : IsName n) :
    ("/".intercalate (above ++ [n])).toList.getLast? = n.toList.getLast? := by
  have hlast : ∀ front : String, (front ++ n).toList.getLast? = n.toList.getLast? := by
    intro front
    rw [String.toList_append]
    exact getLast?_append_of_ne_nil h.toList_ne_nil
  by_cases habove : above = []
  · subst habove
    rw [List.nil_append, String.intercalate_singleton]
  · rw [String.intercalate_append_of_ne_nil habove (List.cons_ne_nil n []),
      String.intercalate_singleton]
    exact hlast _

/-- A path with a name at its end has no slash there. -/
theorem endsInSlash_below {dir : String} (hdir : dir ≠ "") {above : List String} {n : String}
    (h : ∀ m ∈ above ++ [n], IsName m) : endsInSlash (below dir (above ++ [n])) = false := by
  have hn : IsName n := h n (List.mem_append_right above (List.mem_singleton.mpr rfl))
  have hjoined : ("/".intercalate (above ++ [n])).toList ≠ [] := by
    intro hnil
    have hlast := getLast?_joined above hn
    rw [hnil] at hlast
    exact hn.toList_ne_nil (List.getLast?_eq_none_iff.mp hlast.symm)
  have hlast : (below dir (above ++ [n])).toList.getLast? = n.toList.getLast? := by
    obtain ⟨front, -, hbelow⟩ | hbelow := below_cases hdir h
    · rw [hbelow, String.toList_append, getLast?_append_of_ne_nil hjoined,
        getLast?_joined above hn]
    · rw [hbelow, String.toList_append, getLast?_append_of_ne_nil hjoined,
        getLast?_joined above hn]
  unfold endsInSlash
  rw [hlast, beq_eq_false_iff_ne]
  exact fun hslash => hn.noSlash (List.mem_of_getLast? hslash)

/-! ## §3. Extensions. -/

/-- A text read from its end up to its last dot. -/
theorem takeWhile_dot {a b : List Char} (hb : '.' ∉ b) :
    (a ++ '.' :: b).reverse.takeWhile (· != '.') = b.reverse := by
  have hpass : ∀ c ∈ b.reverse, (c != '.') = true := fun c hc =>
    bne_iff_ne.mpr fun hdot => hb (hdot ▸ List.mem_reverse.mp hc)
  rw [List.reverse_append, List.reverse_cons, List.append_assoc, List.takeWhile_append_of_pos hpass]
  exact List.append_nil b.reverse

/-- **An extension follows the last dot of a name, and something is before that dot.** -/
theorem nameExtension?_eq_some_iff {name extension : String} :
    nameExtension? name = some extension ↔
      ∃ stem, name = stem ++ "." ++ extension ∧ stem ≠ "" ∧ '.' ∉ extension.toList := by
  constructor
  · -- from its end, the name is cut into `tail`, the dot and `stem`
    intro h
    have hcut := List.takeWhile_append_dropWhile (p := (· != '.')) (l := name.toList.reverse)
    have hlacks : ∀ c ∈ name.toList.reverse.takeWhile (· != '.'), c ≠ '.' := fun c hc =>
      bne_iff_ne.mp (List.all_eq_true.mp List.all_takeWhile c hc)
    unfold nameExtension? at h
    simp only at h
    generalize name.toList.reverse.takeWhile (· != '.') = tail at h hcut hlacks
    generalize name.toList.reverse.dropWhile (· != '.') = rest at hcut
    rw [← hcut, List.drop_left] at h
    split at h
    · next c stem =>
      refine ⟨String.ofList (c :: stem).reverse, ?_, ?_, ?_⟩
      · apply String.toList_injective
        rw [← Option.some.inj h, String.toList_append, String.toList_append, String.toList_ofList,
          String.toList_ofList, ← List.reverse_reverse name.toList, ← hcut]
        simp
      · intro hempty
        have hlist := congrArg String.toList hempty
        simp at hlist
      · rw [← Option.some.inj h, String.toList_ofList, List.mem_reverse]
        exact fun hdot => hlacks '.' hdot rfl
    · cases h
  · -- backwards the extension comes first, and the dot after it is the first one
    rintro ⟨stem, rfl, hstem, hextension⟩
    have hlist : (stem ++ "." ++ extension).toList = stem.toList ++ '.' :: extension.toList := by
      rw [String.toList_append, String.toList_append, List.append_assoc]
      rfl
    have hback : (stem.toList ++ '.' :: extension.toList).reverse
        = extension.toList.reverse ++ '.' :: stem.toList.reverse := by simp
    have hne : stem.toList.reverse ≠ [] := fun hnil =>
      hstem (String.toList_injective (List.reverse_eq_nil_iff.mp hnil))
    obtain ⟨c, cs, hcs⟩ := List.exists_cons_of_ne_nil hne
    unfold nameExtension?
    simp only
    rw [hlist, takeWhile_dot hextension, hback, List.drop_left, hcs, List.reverse_reverse,
      String.ofList_toList]
    rfl

end Path

/-- What reading an entry gives, if it is a file. -/
def FileEntry.content : FileEntry → String
  | .text content => content
  | _ => ""

namespace FileTree

variable {t : FileTree} {place : List String} {dir : String}

/-! ## §4. Places of files. -/

/-- A file, and no directory, is at a place. -/
def IsFile (t : FileTree) (p : List String) : Prop := ∃ e, t.at? p = some e ∧ e ≠ .directory

/-- **What is listed below a place is a tree.** -/
structure ProperBelow (t : FileTree) (place : List String) : Prop where
  /-- Each place is listed once. -/
  once : (t.entries.map Prod.fst).Nodup
  /-- What leads there from the directory is names. -/
  named : ∀ names e, (place ++ names, e) ∈ t.entries → ∀ n ∈ names, Path.IsName n
  /-- Nothing is below a file. -/
  leaf : ∀ names more e e', (place ++ names, e) ∈ t.entries → e ≠ .directory →
    (place ++ names ++ more, e') ∈ t.entries → more = []

/-- The list can be gone through to see whether it is one. -/
theorem properBelow_iff :
    t.ProperBelow place ↔ (t.entries.map Prod.fst).Nodup ∧
      (∀ x ∈ t.entries, place <+: x.1 → ∀ n ∈ x.1.drop place.length, Path.IsName n) ∧
      ∀ x ∈ t.entries, place <+: x.1 → x.2 ≠ .directory → ∀ y ∈ t.entries, x.1 <+: y.1 →
        x.1 = y.1 := by
  constructor
  · rintro ⟨honce, hnamed, hleaf⟩
    refine ⟨honce, ?_, ?_⟩
    · rintro ⟨_, e⟩ hmem ⟨names, rfl⟩
      rw [List.drop_left]
      exact hnamed names e hmem
    · rintro ⟨_, e⟩ hmem ⟨names, rfl⟩ hfile ⟨_, e'⟩ hmem' ⟨more, rfl⟩
      rw [hleaf names more e e' hmem hfile hmem', List.append_nil]
  · rintro ⟨honce, hnamed, hleaf⟩
    refine ⟨honce, fun names e hmem => ?_, fun names more e e' hmem hfile hmem' => ?_⟩
    · have hnames := hnamed _ hmem (List.prefix_append place names)
      rwa [List.drop_left] at hnames
    · have hsame := hleaf _ hmem (List.prefix_append place names) hfile _ hmem'
        (List.prefix_append _ more)
      exact List.append_right_eq_self.mp hsame.symm

instance : Decidable (t.ProperBelow place) := decidable_of_iff _ properBelow_iff.symm

/-- What is listed is found, if no place is listed twice. -/
theorem lookup_of_mem {entries : List (List String × FileEntry)}
    (honce : (entries.map Prod.fst).Nodup) {p : List String} {e : FileEntry}
    (h : (p, e) ∈ entries) : entries.lookup p = some e := by
  obtain ⟨before, after, rfl⟩ := List.append_of_mem h
  refine List.lookup_eq_some_iff.mpr ⟨before, after, rfl, fun other hother => ?_⟩
  rw [List.map_append, List.map_cons, List.nodup_append] at honce
  have hne := honce.2.2 other.1 (List.mem_map_of_mem hother) p List.mem_cons_self
  exact bne_iff_ne.mpr fun hp => hne hp.symm

/-- What is found is listed. -/
theorem mem_of_lookup {entries : List (List String × FileEntry)} {p : List String} {e : FileEntry}
    (h : entries.lookup p = some e) : (p, e) ∈ entries := by
  obtain ⟨before, after, rfl, -⟩ := List.lookup_eq_some_iff.mp h
  exact List.mem_append_right before List.mem_cons_self

/-- What is at a place and is no directory is listed there. -/
theorem mem_of_at? {p : List String} {e : FileEntry} (h : t.at? p = some e)
    (hfile : e ≠ .directory) : (p, e) ∈ t.entries := by
  unfold at? at h
  split at h
  · next e' hlookup =>
    cases h
    exact mem_of_lookup hlookup
  · split at h
    · cases h
      exact absurd rfl hfile
    · cases h

theorem at?_of_mem (honce : (t.entries.map Prod.fst).Nodup) {p : List String} {e : FileEntry}
    (h : (p, e) ∈ t.entries) : t.at? p = some e := by
  unfold at?
  rw [lookup_of_mem honce h]

namespace ProperBelow

variable (h : t.ProperBelow place)
include h

/-- The names that lead to a file are names. -/
theorem named_of_isFile {names : List String} (hfile : t.IsFile (place ++ names)) :
    ∀ n ∈ names, Path.IsName n := by
  obtain ⟨e, he, hne⟩ := hfile
  exact h.named names e (mem_of_at? he hne)

/-- What is above a listed place is a directory. -/
theorem directory_above {names : List String} {n : String} {more : List String} {e : FileEntry}
    (hmem : (place ++ names ++ n :: more, e) ∈ t.entries) :
    t.at? (place ++ names) = some .directory := by
  cases hlookup : t.entries.lookup (place ++ names) with
  | some e' =>
    have habove := mem_of_lookup hlookup
    by_cases hdirectory : e' = .directory
    · unfold at?
      rw [hlookup, hdirectory]
    · cases h.leaf names (n :: more) e' e habove hdirectory hmem
  | none =>
    have hany : t.entries.any (fun e => (place ++ names).isPrefixOf e.1) = true :=
      List.any_eq_true.mpr ⟨_, hmem, List.isPrefixOf_iff_prefix.mpr (List.prefix_append _ _)⟩
    unfold at?
    rw [hlookup]
    show (if isGiven (place ++ names) || t.entries.any _ then _ else _) = _
    rw [hany, Bool.or_true, if_pos rfl]

end ProperBelow

/-! ## §5. The files below a place. -/

/-- The names by which an entry is below a place, if it is a file. -/
def namesBelow? (place : List String) : List String × FileEntry → Option (List String)
  | (_, .directory) => none
  | (p, _) =>
    if place.isPrefixOf p && place.length < p.length then some (p.drop place.length) else none

/-- **The files below a place:** the rests of the places that begin with it, sorted. -/
theorem filesBelow_eq :
    t.filesBelow place = (t.entries.filterMap (namesBelow? place)).mergeSort placeLe := by
  unfold filesBelow
  congr 2
  funext ⟨p, e⟩
  cases e with
  | directory => rfl
  | text content => rfl
  | registry content => rfl

/-- A place gives names exactly if it is that of a file below; the names are what follows. -/
theorem namesBelow?_eq_some_iff {p names : List String} {e : FileEntry} :
    namesBelow? place (p, e) = some names ↔
      p = place ++ names ∧ names ≠ [] ∧ e ≠ .directory := by
  -- a place is below another one if it begins with it and is longer
  have hbelow : (if place.isPrefixOf p && place.length < p.length then
      some (p.drop place.length) else none) = some names ↔ p = place ++ names ∧ names ≠ [] := by
    rw [Option.ite_none_right_eq_some, Bool.and_eq_true, List.isPrefixOf_iff_prefix,
      decide_eq_true_eq]
    constructor
    · rintro ⟨⟨⟨rest, rfl⟩, hlength⟩, hnames⟩
      rw [List.drop_left, Option.some.injEq] at hnames
      subst hnames
      refine ⟨rfl, fun hnil => ?_⟩
      rw [hnil, List.append_nil] at hlength
      exact Nat.lt_irrefl _ hlength
    · rintro ⟨rfl, hne⟩
      refine ⟨⟨List.prefix_append place names, ?_⟩, by rw [List.drop_left]⟩
      rw [List.length_append]
      exact Nat.lt_add_of_pos_right (List.length_pos_iff.mpr hne)
  cases e with
  | directory => exact iff_of_false (fun hnone => by cases hnone) fun hfile => hfile.2.2 rfl
  | text content =>
    exact hbelow.trans ⟨fun hp => ⟨hp.1, hp.2, FileEntry.noConfusion⟩, fun hp => ⟨hp.1, hp.2.1⟩⟩
  | registry content =>
    exact hbelow.trans ⟨fun hp => ⟨hp.1, hp.2, FileEntry.noConfusion⟩, fun hp => ⟨hp.1, hp.2.1⟩⟩

/-- No place is before itself, and of two places one that is not before the other is after it or
the same. -/
theorem placeLe_iff {a b : List String} : placeLe a b = true ↔ ¬ b < a :=
  decide_eq_true_iff.trans List.not_lt.symm

/-- Places are ordered name by name, and names character by character. -/
theorem placeLe_trans (a b c : List String) (hab : placeLe a b = true)
    (hbc : placeLe b c = true) : placeLe a c = true :=
  decide_eq_true (List.le_trans (of_decide_eq_true hab) (of_decide_eq_true hbc))

/-- Of two places one is not after the other. -/
theorem placeLe_total (a b : List String) : (placeLe a b || placeLe b a) = true :=
  Bool.or_eq_true_iff.mpr ((List.le_total a b).imp decide_eq_true decide_eq_true)

namespace ProperBelow

variable (h : t.ProperBelow place)
include h

/-- **The files below a place are those of which the places begin with it.** -/
theorem mem_filesBelow {names : List String} :
    names ∈ t.filesBelow place ↔ names ≠ [] ∧ t.IsFile (place ++ names) := by
  rw [filesBelow_eq, List.mem_mergeSort, List.mem_filterMap]
  constructor
  · rintro ⟨⟨p, e⟩, hmem, hnames⟩
    obtain ⟨rfl, hne, hfile⟩ := namesBelow?_eq_some_iff.mp hnames
    exact ⟨hne, e, at?_of_mem h.once hmem, hfile⟩
  · rintro ⟨hne, e, he, hfile⟩
    exact ⟨_, mem_of_at? he hfile, namesBelow?_eq_some_iff.mpr ⟨rfl, hne, hfile⟩⟩

/-- Different entries are different files below the place. -/
theorem nodup_filesBelow : (t.filesBelow place).Nodup := by
  rw [filesBelow_eq, (List.mergeSort_perm _ _).nodup_iff]
  refine List.pairwise_filterMap.mpr ((List.pairwise_map.mp h.once).imp ?_)
  rintro ⟨p, e⟩ ⟨q, e'⟩ hne names hnames names' hnames' rfl
  have hp := (namesBelow?_eq_some_iff.mp hnames).1
  have hq := (namesBelow?_eq_some_iff.mp hnames').1
  exact hne (hp.trans hq.symm)

/-- **Each file below a place is there once, in the order of the names.** -/
theorem sorted_filesBelow : (t.filesBelow place).Pairwise (· < ·) := by
  have hsorted : (t.filesBelow place).Pairwise fun a b => placeLe a b = true :=
    List.pairwise_mergeSort placeLe_trans placeLe_total _
  refine (hsorted.and h.nodup_filesBelow).imp fun {a b} hab => ?_
  by_cases hlt : a < b
  · exact hlt
  · have hba : placeLe b a = true := placeLe_iff.mpr hlt
    exact absurd (List.le_antisymm (of_decide_eq_true hab.1) (of_decide_eq_true hba)) hab.2

end ProperBelow

/-! ## §6. Paths of files. -/

theorem ne_empty_of_placeOf (h : t.placeOf dir = .ok place) : dir ≠ "" := by
  rintro rfl
  cases h

/-- One goes on from a directory only. -/
theorem walk_cons_eq_ok_iff {start next : List String} {n : String} {rest : List String} :
    t.walk start (n :: rest) = .ok next ↔
      t.at? start = some .directory ∧ t.walk (Path.step start n) rest = .ok next := by
  rw [walk]
  cases t.at? start with
  | none => simp
  | some e =>
    cases e with
    | directory => simp
    | text content => simp
    | registry content => simp

/-- Names are walked in a row. -/
theorem walk_append_eq_ok {start middle next : List String} {a b : List String}
    (ha : t.walk start a = .ok middle) (hb : t.walk middle b = .ok next) :
    t.walk start (a ++ b) = .ok next := by
  induction a generalizing start with
  | nil =>
    cases ha
    exact hb
  | cons n a ih =>
    obtain ⟨hdirectory, hrest⟩ := walk_cons_eq_ok_iff.mp ha
    exact walk_cons_eq_ok_iff.mpr ⟨hdirectory, ih hrest⟩

namespace ProperBelow

variable (h : t.ProperBelow place)
include h

/-- From a directory one gets to a file below it. -/
theorem walk_below {names : List String} (hfile : t.IsFile (place ++ names)) :
    t.walk place names = .ok (place ++ names) := by
  obtain ⟨e, he, hne⟩ := hfile
  have hmem := mem_of_at? he hne
  have hnames := h.named names e hmem
  -- the names that were walked are moved from `rest` to `done`
  suffices hsteps : ∀ rest done, names = done ++ rest →
      t.walk (place ++ done) rest = .ok (place ++ names) by
    have hall := hsteps names [] rfl
    rwa [List.append_nil] at hall
  intro rest
  induction rest with
  | nil =>
    intro done hdone
    rw [List.append_nil] at hdone
    rw [hdone]
    rfl
  | cons n rest ih =>
    intro done hdone
    have hn : n ≠ ".." :=
      (hnames n (hdone ▸ List.mem_append_right done List.mem_cons_self)).notAbove
    have hdirectory : t.at? (place ++ done) = some .directory := by
      rw [hdone, ← List.append_assoc] at hmem
      exact h.directory_above hmem
    have hstep : Path.step (place ++ done) n = place ++ (done ++ [n]) := by
      have hfold : [n].foldl Path.step (place ++ done) = place ++ done ++ [n] :=
        Path.foldl_step (fun m hm => (List.mem_singleton.mp hm) ▸ hn) (place ++ done)
      rw [← List.append_assoc]
      exact hfold
    have hrest : t.walk (Path.step (place ++ done) n) rest = .ok (place ++ names) := by
      rw [hstep]
      exact ih (done ++ [n]) (by rw [hdone, List.append_assoc]; rfl)
    exact walk_cons_eq_ok_iff.mpr ⟨hdirectory, hrest⟩

/-- **A path below a directory leads to the place below that of the directory.** -/
theorem placeOf_below (hdir : t.placeOf dir = .ok place) {names : List String}
    (hfile : t.IsFile (place ++ names)) :
    t.placeOf (Path.below dir names) = .ok (place ++ names) := by
  have hnames := h.named_of_isFile hfile
  have hne := ne_empty_of_placeOf hdir
  have hbelow := Path.below_ne_empty hne hnames
  unfold placeOf at hdir ⊢
  rw [if_neg (mt String.isEmpty_iff.mp hne)] at hdir
  rw [if_neg (mt String.isEmpty_iff.mp hbelow), Path.isAbsolute_below hne hnames]
  by_cases habsolute : Path.isAbsolute dir = true
  · rw [if_pos habsolute] at hdir ⊢
    rw [Path.place_below hne hnames, Except.ok.inj hdir]
  · rw [if_neg habsolute] at hdir ⊢
    rw [Path.names_below hne hnames]
    exact walk_append_eq_ok hdir (h.walk_below hfile)

/-- **What is read there is what is in the file.** -/
theorem read_below (hdir : t.placeOf dir = .ok place) {names : List String} (hne : names ≠ [])
    {e : FileEntry} (he : t.at? (place ++ names) = some e) (hfile : e ≠ .directory) :
    t.read (Path.below dir names) = .ok e.content := by
  have hisFile : t.IsFile (place ++ names) := ⟨e, he, hfile⟩
  have hslash : Path.endsInSlash (Path.below dir names) = false := by
    rw [← List.dropLast_concat_getLast hne]
    refine Path.endsInSlash_below (ne_empty_of_placeOf hdir) ?_
    rw [List.dropLast_concat_getLast hne]
    exact h.named_of_isFile hisFile
  have hplace := h.placeOf_below hdir hisFile
  cases e with
  | directory => exact absurd rfl hfile
  | text content => simp [read, hplace, he, hslash, bind, Except.bind, FileEntry.content]
  | registry content => simp [read, hplace, he, bind, Except.bind, FileEntry.content]

end ProperBelow

end FileTree

end SuiteRunner
