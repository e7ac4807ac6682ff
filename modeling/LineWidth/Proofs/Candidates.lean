import LineWidth.Proofs.SurveyRun
import Mathlib.Data.Char
import Mathlib.Data.List.Lex
import Mathlib.Data.Prod.Lex

/-! # Candidates of a search

A path argument that leads to a file has itself as its one candidate. One that leads to a directory
has the files below it that a pattern matches, unless an ignored directory lies on the way from
there. `FileTree.Candidate` says so without the search, and `mem_offers_iff` that an argument on
which every question has an answer offers just its acceptable candidates, in the order of paths
(`offers_sorted`).
-/

namespace LineWidth

namespace Path

/-- What paths are ordered by. -/
def sortKey (path : Path) : List Char ×ₗ List (List Char) :=
  toLex (path.root.toList, path.parts.map String.toList)

theorem le_iff {first second : Path} : le first second = true ↔ first.sortKey ≤ second.sortKey := by
  rw [sortKey, sortKey, Prod.Lex.toLex_le_toLex, String.toList_inj]
  simp only [le, Bool.or_eq_true, Bool.and_eq_true, decide_eq_true_eq, beq_iff_eq,
    Bool.not_eq_true', decide_eq_false_iff_not, not_lt]

private theorem sorted_mergeSort (paths : List Path) :
    (paths.mergeSort le).Pairwise fun first second => le first second = true := by
  apply List.pairwise_mergeSort
  · intro first second third early late
    exact le_iff.mpr ((le_iff.mp early).trans (le_iff.mp late))
  · intro first second
    rw [Bool.or_eq_true, le_iff, le_iff]
    exact le_total ..

private theorem join_nil (path : Path) : path.join [] = path := by
  rw [join, List.append_nil]

private theorem join_join (path : Path) (first second : List String) :
    (path.join first).join second = path.join (first ++ second) := by
  simp only [join, List.append_assoc]

end Path

/-- Induction over nodes that hold other nodes. -/
private theorem Node.nestedInduction {P : Node → Prop}
    (file : ∀ content readable, P (.file content readable)) (link : ∀ target, P (.link target))
    (directory : ∀ (entries : List (String × Node)) access, (∀ entry ∈ entries, P entry.2) →
      P (.directory entries access)) (node : Node) : P node := by
  induction size : sizeOf node using Nat.strong_induction_on generalizing node with
  | _ _ ih =>
    subst size
    cases node with
    | file content readable => exact file content readable
    | link target => exact link target
    | directory entries access =>
      apply directory
      rintro ⟨name, node⟩ member
      have smaller := List.sizeOf_lt_of_mem member
      rw [Prod.mk.sizeOf_spec] at smaller
      exact ih (sizeOf node) (by simp; omega) node rfl

namespace FileTree

variable {tree : FileTree} {patterns : List String} {base path : Path}

private theorem exists_of_mem_unlessDenied {α : Type} {answer : Except QueryFault α}
    {next : α → List Lead} (member : .found path ∈ Lead.unlessDenied answer next) :
    ∃ value, answer = .ok value ∧ .found path ∈ next value := by
  unfold Lead.unlessDenied at member
  split at member
  · exact ⟨_, rfl, member⟩
  · cases member
  · cases List.mem_singleton.mp member

private theorem exists_of_mem_goOn {next : Path → List Lead} {lead : Lead}
    (member : .found path ∈ Lead.goOn next lead) :
    ∃ start, lead = .found start ∧ .found path ∈ next start := by
  cases lead with
  | found start => exact ⟨start, rfl, member⟩
  | broken fault => cases List.mem_singleton.mp member

private theorem directoriesIn_eq (tree : FileTree) (base : Path) (entries : List (String × Node)) :
    tree.directoriesIn base entries =
      entries.flatMap fun entry => tree.directories (base.join [entry.1]) entry.2 := by
  induction entries with
  | nil => rfl
  | cons entry rest ih => rw [directoriesIn, ih, List.flatMap_cons]

/-- The directories below a path are written as going on from there. -/
private theorem exists_join_of_directories {node : Node}
    (member : .found path ∈ tree.directories base node) : ∃ names, path = base.join names := by
  induction node using Node.nestedInduction generalizing base with
  | file content readable => cases member
  | link target => cases member
  | directory entries access ih =>
    rw [directories, List.mem_cons] at member
    rcases member with same | member
    · obtain rfl := Lead.found.inj same
      exact ⟨[], (Path.join_nil _).symm⟩
    · obtain ⟨_, -, member⟩ := exists_of_mem_unlessDenied member
      rw [directoriesIn_eq, List.mem_flatMap] at member
      obtain ⟨entry, among, member⟩ := member
      obtain ⟨names, rfl⟩ := ih entry among member
      exact ⟨_, Path.join_join ..⟩

private theorem exists_join_of_startsBelow (member : .found path ∈ tree.startsBelow base) :
    ∃ names, path = base.join names := by
  rw [startsBelow, List.mem_cons] at member
  rcases member with same | member
  · obtain rfl := Lead.found.inj same
    exact ⟨[], (Path.join_nil _).symm⟩
  · obtain ⟨entries, -, member⟩ := exists_of_mem_unlessDenied member
    rw [directoriesIn_eq, List.mem_flatMap] at member
    obtain ⟨entry, -, member⟩ := member
    obtain ⟨names, rfl⟩ := exists_join_of_directories member
    exact ⟨_, Path.join_join ..⟩

/-- A pattern leads from a directory only to paths that are written as going on from there. -/
private theorem exists_join_of_select {directoriesOnly : Bool} {parts : List PatternPart}
    (member : .found path ∈ tree.select directoriesOnly parts base) :
    ∃ names, path = base.join names := by
  induction parts generalizing base with
  | nil =>
    obtain rfl := Lead.found.inj (List.mem_singleton.mp member)
    exact ⟨[], (Path.join_nil _).symm⟩
  | cons part rest ih =>
    cases part with
    | exact name =>
      obtain ⟨leads, -, member⟩ := exists_of_mem_unlessDenied member
      cases leads with
      | false => cases member
      | true =>
        obtain ⟨names, rfl⟩ := ih member
        exact ⟨_, Path.join_join ..⟩
    | names items =>
      obtain ⟨entries, -, member⟩ := exists_of_mem_unlessDenied member
      induction entries with
      | nil => cases member
      | cons entry entries later =>
        obtain ⟨leads, -, member⟩ := exists_of_mem_unlessDenied member
        split at member
        · rcases List.mem_append.mp member with member | member
          · obtain ⟨names, rfl⟩ := ih member
            exact ⟨_, Path.join_join ..⟩
          · exact later member
        · exact later member
    | below =>
      obtain ⟨lead, among, member⟩ := List.mem_flatMap.mp (List.mem_eraseDups.mp member)
      obtain ⟨start, rfl, member⟩ := exists_of_mem_goOn member
      obtain ⟨names, rfl⟩ := exists_join_of_startsBelow among
      obtain ⟨more, rfl⟩ := ih member
      exact ⟨_, Path.join_join ..⟩

/-- A candidate of the path argument `base`. -/
inductive Candidate (tree : FileTree) (patterns : List String) (base : Path) : Path → Prop
  | given (file : tree.isFile base = .ok true) : Candidate tree patterns base base
  | matched {text : String} {pattern : Pattern} {found : List Path} {names : List String}
      (directory : tree.isDirectory base = .ok true) (listed : text ∈ patterns)
      (read : Pattern.parse text = .ok pattern)
      (searched : tree.matching base pattern = found.map .found)
      (member : base.join names ∈ found) (file : tree.isFile (base.join names) = .ok true)
      (passable : ∀ name ∈ names.dropLast, name ∉ ignoredDirectories) :
      Candidate tree patterns base (base.join names)

/-- A candidate within the size limit. -/
def Acceptable (tree : FileTree) (patterns : List String) (base path : Path) : Prop :=
  tree.Candidate patterns base path ∧ tree.size path ≤ sizeLimit

/-- Every question that a search asks about the path argument `base` has an answer: where it leads
and, if that is a directory, which paths below it each pattern matches and whether they are files.
-/
def Answers (tree : FileTree) (patterns : List String) (base : Path) : Prop :=
  ∃ node, tree.lookUp base = .ok node ∧ (node.any Node.isDirectory = true →
    ∀ text ∈ patterns, ∃ (pattern : Pattern) (found : List Path), Pattern.parse text = .ok pattern ∧
      tree.matching base pattern = found.map .found ∧
      ∀ path ∈ found, ∃ truth, tree.isFile path = .ok truth)

/-- Whether a file that the path argument `base` stands for is one to check. -/
def isWanted (tree : FileTree) (base path : Path) : Bool :=
  !isIgnored base path && decide (tree.size path ≤ sizeLimit)

/-- What a search takes from the path argument `base`, in order, if nothing has been found before.
-/
def offers (tree : FileTree) (patterns : List String) (base : Path) : List Path :=
  match tree.expand patterns base with
  | .ok (some paths) => paths.filter (tree.isWanted base)
  | _ => []

private theorem isDirectory_iff :
    tree.isDirectory base = .ok true ↔
      ∃ entries access, tree.lookUp base = .ok (some (.directory entries access)) := by
  rw [isDirectory]
  rcases tree.lookUp base with fault | (_ | (_ | _ | _)) <;>
    simp [Except.map, Node.isDirectory]

private theorem isFile_iff :
    tree.isFile base = .ok true ↔
      ∃ content readable, tree.lookUp base = .ok (some (.file content readable)) := by
  refine ⟨exists_of_isFile, ?_⟩
  rintro ⟨content, readable, there⟩
  rw [isFile, there]
  rfl

private theorem isIgnored_join {names : List String} :
    isIgnored base (base.join names) = false ↔
      ∀ name ∈ names.dropLast, name ∉ ignoredDirectories := by
  simp [isIgnored, Path.join]

theorem isIgnored_self : isIgnored base base = false := by
  simp [isIgnored]

theorem isWanted_iff :
    tree.isWanted base path = true ↔ isIgnored base path = false ∧ tree.size path ≤ sizeLimit := by
  rw [isWanted, Bool.and_eq_true, Bool.not_eq_true', decide_eq_true_eq]

private theorem mem_candidates_iff {paths : List Path}
    (done : tree.candidates patterns base = .ok paths) :
    path ∈ paths ↔ ∃ text ∈ patterns, ∃ (pattern : Pattern) (found : List Path),
      Pattern.parse text = .ok pattern ∧
      tree.matching base pattern = found.map .found ∧ path ∈ found ∧
      tree.isFile path = .ok true := by
  obtain ⟨groups, searched, sorted⟩ := bind_eq_ok_iff.mp done
  obtain rfl := Except.ok.inj sorted
  rw [List.mem_mergeSort, List.mem_flatten]
  constructor
  · rintro ⟨group, among, member⟩
    obtain ⟨text, listed, matched⟩ := (mem_of_mapM_eq_ok searched).mp among
    obtain ⟨pattern, read, filtered⟩ := bind_eq_ok_iff.mp matched
    have filtered := mapError_eq_ok_iff.mp filtered
    obtain ⟨found, matching, -⟩ := exists_filesOf_iff.mp ⟨group, filtered⟩
    obtain ⟨member, file⟩ := (mem_filesOf_iff filtered).mp member
    rw [matching, List.mem_map_of_injective @Lead.found.inj] at member
    exact ⟨text, listed, pattern, found, mapError_eq_ok_iff.mp read, matching, member, file⟩
  · rintro ⟨text, listed, pattern, found, read, matching, member, file⟩
    obtain ⟨group, matched⟩ := exists_mapM_eq_ok_iff.mp ⟨_, searched⟩ text listed
    refine ⟨group, (mem_of_mapM_eq_ok searched).mpr ⟨text, listed, matched⟩, ?_⟩
    obtain ⟨other, again, filtered⟩ := bind_eq_ok_iff.mp matched
    obtain rfl := Except.ok.inj (read.symm.trans (mapError_eq_ok_iff.mp again))
    refine (mem_filesOf_iff (mapError_eq_ok_iff.mp filtered)).mpr ⟨?_, file⟩
    rw [matching]
    exact List.mem_map_of_mem member

private theorem exists_candidates_iff :
    (∃ paths, tree.candidates patterns base = .ok paths) ↔
      ∀ text ∈ patterns, ∃ (pattern : Pattern) (found : List Path),
        Pattern.parse text = .ok pattern ∧ tree.matching base pattern = found.map .found ∧
        ∀ path ∈ found, ∃ truth, tree.isFile path = .ok truth := by
  have whole {groups : Except Breakdown (List (List Path))} :
      (∃ paths, (do return (← groups).flatten.mergeSort Path.le) = Except.ok paths) ↔
        ∃ found, groups = .ok found := by
    cases groups <;> simp [bind, Except.bind, pure, Except.pure]
  rw [candidates, whole, exists_mapM_eq_ok_iff]
  refine forall₂_congr fun text _ => ?_
  constructor
  · rintro ⟨group, matched⟩
    obtain ⟨pattern, read, filtered⟩ := bind_eq_ok_iff.mp matched
    obtain ⟨found, matching, answers⟩ :=
      exists_filesOf_iff.mp ⟨group, mapError_eq_ok_iff.mp filtered⟩
    exact ⟨pattern, found, mapError_eq_ok_iff.mp read, matching, answers⟩
  · rintro ⟨pattern, found, read, matching, answers⟩
    obtain ⟨group, filtered⟩ := exists_filesOf_iff.mpr ⟨found, matching, answers⟩
    exact ⟨group, bind_eq_ok_iff.mpr
      ⟨pattern, mapError_eq_ok_iff.mpr read, mapError_eq_ok_iff.mpr filtered⟩⟩

/-- What a path argument stands for, by where it leads. -/
private theorem expand_cases {result : Option (List Path)}
    (done : tree.expand patterns base = .ok result) :
    tree.isFile base = .ok true ∧ result = some [base] ∨
      (tree.isDirectory base = .ok true ∧
        ∃ paths, tree.candidates patterns base = .ok paths ∧ result = some paths) ∨
      ¬ tree.isFile base = .ok true ∧ ¬ tree.isDirectory base = .ok true ∧ result = none := by
  obtain ⟨node, there, done⟩ := bind_eq_ok_iff.mp done
  have there := mapError_eq_ok_iff.mp there
  rw [isFile_iff, isDirectory_iff, there]
  rcases node with _ | (⟨content, readable⟩ | ⟨entries, access⟩ | target)
  · exact .inr (.inr ⟨by simp, by simp, (Except.ok.inj done).symm⟩)
  · exact .inl ⟨⟨content, readable, rfl⟩, (Except.ok.inj done).symm⟩
  · obtain ⟨paths, done, same⟩ := bind_eq_ok_iff.mp done
    exact .inr (.inl ⟨⟨entries, access, rfl⟩, paths, done, (Except.ok.inj same).symm⟩)
  · exact .inr (.inr ⟨by simp, by simp, (Except.ok.inj done).symm⟩)

theorem exists_expand_iff :
    (∃ result, tree.expand patterns base = .ok result) ↔ tree.Answers patterns base := by
  constructor
  · rintro ⟨result, done⟩
    obtain ⟨node, there, done⟩ := bind_eq_ok_iff.mp done
    refine ⟨node, mapError_eq_ok_iff.mp there, fun isDirectory => ?_⟩
    rcases node with _ | (_ | _ | _)
    · cases isDirectory
    · cases isDirectory
    · obtain ⟨paths, searched, -⟩ := bind_eq_ok_iff.mp done
      exact exists_candidates_iff.mp ⟨paths, searched⟩
    · cases isDirectory
  · rintro ⟨node, there, asked⟩
    have there : (tree.lookUp base).mapError QueryFault.breakdown = .ok node :=
      mapError_eq_ok_iff.mpr there
    rcases node with _ | (_ | _ | _)
    · exact ⟨none, bind_eq_ok_iff.mpr ⟨_, there, rfl⟩⟩
    · exact ⟨some [base], bind_eq_ok_iff.mpr ⟨_, there, rfl⟩⟩
    · obtain ⟨paths, searched⟩ := exists_candidates_iff.mpr (asked rfl)
      exact ⟨some paths, bind_eq_ok_iff.mpr
        ⟨_, there, bind_eq_ok_iff.mpr ⟨paths, searched, rfl⟩⟩⟩
    · exact ⟨none, bind_eq_ok_iff.mpr ⟨_, there, rfl⟩⟩

private theorem isOk_expand_iff :
    (tree.expand patterns base).isOk = true ↔ tree.Answers patterns base := by
  rw [← exists_expand_iff]
  cases tree.expand patterns base <;> simp [Except.isOk, Except.toBool]

instance : Decidable (tree.Answers patterns base) := decidable_of_iff _ isOk_expand_iff

private theorem not_isDirectory_of_isFile (file : tree.isFile base = .ok true) :
    ¬ tree.isDirectory base = .ok true := by
  obtain ⟨content, readable, there⟩ := isFile_iff.mp file
  rw [isDirectory_iff, there]
  rintro ⟨entries, access, same⟩
  cases same

/-- A path argument offers its acceptable candidates and nothing else. -/
theorem mem_offers_iff (answers : tree.Answers patterns base) :
    path ∈ tree.offers patterns base ↔ tree.Acceptable patterns base path := by
  obtain ⟨result, done⟩ := exists_expand_iff.mpr answers
  rw [offers, done, Acceptable]
  rcases expand_cases done with
    ⟨file, rfl⟩ | ⟨directory, paths, searched, rfl⟩ | ⟨noFile, noDirectory, rfl⟩
  · simp only [List.mem_filter, List.mem_singleton, isWanted_iff]
    constructor
    · rintro ⟨rfl, -, small⟩
      exact ⟨.given file, small⟩
    · rintro ⟨candidate, small⟩
      cases candidate with
      | given _ => exact ⟨rfl, isIgnored_self, small⟩
      | matched directory => exact absurd directory (not_isDirectory_of_isFile file)
  · simp only [List.mem_filter, isWanted_iff, mem_candidates_iff searched]
    constructor
    · rintro ⟨⟨text, listed, pattern, found, read, matching, member, file⟩, shown, small⟩
      have led : .found path ∈ tree.matching base pattern := by
        rw [matching]
        exact List.mem_map_of_mem member
      obtain ⟨names, rfl⟩ := exists_join_of_select led
      exact ⟨.matched directory listed read matching member file (isIgnored_join.mp shown), small⟩
    · rintro ⟨candidate, small⟩
      cases candidate with
      | given file => exact absurd directory (not_isDirectory_of_isFile file)
      | matched _ listed read matching member file passable =>
        exact ⟨⟨_, listed, _, _, read, matching, member, file⟩, isIgnored_join.mpr passable, small⟩
  · refine iff_of_false List.not_mem_nil ?_
    rintro ⟨candidate, -⟩
    cases candidate with
    | given file => exact noFile file
    | matched directory => exact noDirectory directory

theorem offers_sorted (tree : FileTree) (patterns : List String) (base : Path) :
    (tree.offers patterns base).Pairwise fun first second => Path.le first second = true := by
  rw [offers]
  split
  · next paths done =>
    apply List.Pairwise.filter
    rcases expand_cases done with ⟨-, same⟩ | ⟨-, found, searched, same⟩ | ⟨-, -, same⟩
    · obtain rfl := Option.some.inj same
      exact List.pairwise_singleton ..
    · obtain rfl := Option.some.inj same
      obtain ⟨groups, -, sorted⟩ := bind_eq_ok_iff.mp searched
      obtain rfl := Except.ok.inj sorted
      exact Path.sorted_mergeSort _
    · cases same
  · exact List.Pairwise.nil

theorem isFile_of_mem_offers (member : path ∈ tree.offers patterns base) :
    tree.isFile path = .ok true := by
  rw [offers] at member
  split at member
  · next paths done => exact isFile_of_expand done (List.mem_of_mem_filter member)
  · cases member

theorem size_of_mem_offers (member : path ∈ tree.offers patterns base) :
    tree.size path ≤ sizeLimit := by
  rw [offers] at member
  split at member
  · exact (isWanted_iff.mp (List.mem_filter.mp member).2).2
  · cases member

end FileTree

end LineWidth
