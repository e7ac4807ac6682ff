import LineWidth.Proofs.Candidates
import Mathlib.Data.List.TakeWhile

/-! # Discovered files

A search is one scan over the acceptable candidates of its path arguments, in the order of the
arguments and sorted below each directory, which keeps the first candidate for every place
(`FileTree.search_files`). So it finds every place once and misses none, whatever the order of
the arguments, and a search for what has been found finds just that again.
-/

namespace LineWidth

section Firsts

variable {α κ : Type} [BEq κ] [LawfulBEq κ] {key : α → κ} {seen : List κ} {items : List α}

/-- The items whose key is neither among the keys `seen` nor that of an earlier item. -/
def firsts (key : α → κ) (seen : List κ) : List α → List α
  | [] => []
  | item :: rest =>
    if seen.contains (key item) then firsts key seen rest
    else item :: firsts key (key item :: seen) rest

omit [LawfulBEq κ] in
private theorem firsts_append (first second : List α) :
    firsts key seen (first ++ second) = firsts key seen first ++
      firsts key (((firsts key seen first).map key).reverse ++ seen) second := by
  induction first generalizing seen with
  | nil => rfl
  | cons item rest ih =>
    rw [List.cons_append, firsts, firsts]
    split
    · exact ih
    · simp [ih]

/-- An item that is kept comes with a new key, and none before it has that key. -/
private theorem exists_split_of_mem_firsts {item : α} (member : item ∈ firsts key seen items) :
    key item ∉ seen ∧ ∃ before after, items = before ++ item :: after ∧
      ∀ other ∈ before, key other ≠ key item := by
  induction items generalizing seen with
  | nil => cases member
  | cons head rest ih =>
    rw [firsts] at member
    split at member
    · next known =>
      obtain ⟨fresh, before, after, rfl, first⟩ := ih member
      refine ⟨fresh, head :: before, after, rfl, List.forall_mem_cons.mpr ⟨?_, first⟩⟩
      intro same
      exact fresh (same ▸ List.contains_iff_mem.mp known)
    · next unknown =>
      rcases List.mem_cons.mp member with rfl | member
      · exact ⟨fun known => unknown (List.contains_iff_mem.mpr known), [], rest, rfl,
          List.forall_mem_nil _⟩
      · obtain ⟨fresh, before, after, rfl, first⟩ := ih member
        obtain ⟨different, fresh⟩ := not_or.mp (mt List.mem_cons.mpr fresh)
        exact ⟨fresh, head :: before, after, rfl,
          List.forall_mem_cons.mpr ⟨Ne.symm different, first⟩⟩

private theorem nodup_firsts : ((firsts key seen items).map key).Nodup := by
  induction items generalizing seen with
  | nil => exact List.nodup_nil
  | cons head rest ih =>
    rw [firsts]
    split
    · exact ih
    · rw [List.map_cons, List.nodup_cons]
      refine ⟨?_, ih⟩
      intro again
      obtain ⟨item, member, same⟩ := List.mem_map.mp again
      exact (exists_split_of_mem_firsts member).1 (same ▸ List.mem_cons_self ..)

/-- No key is lost. -/
private theorem exists_mem_firsts (key : α → κ) (seen : List κ) {item : α} (member : item ∈ items) :
    key item ∈ seen ∨ ∃ kept ∈ firsts key seen items, key kept = key item := by
  induction items generalizing seen with
  | nil => cases member
  | cons head rest ih =>
    rw [firsts]
    split
    · next known =>
      rcases List.mem_cons.mp member with rfl | member
      · exact .inl (List.contains_iff_mem.mp known)
      · exact ih seen member
    · rcases List.mem_cons.mp member with rfl | member
      · exact .inr ⟨item, List.mem_cons_self .., rfl⟩
      · rcases ih (key head :: seen) member with known | ⟨kept, member, same⟩
        · rcases List.mem_cons.mp known with same | known
          · exact .inr ⟨head, List.mem_cons_self .., same.symm⟩
          · exact .inl known
        · exact .inr ⟨kept, List.mem_cons_of_mem _ member, same⟩

/-- Items with new and distinct keys are all kept. -/
private theorem firsts_of_nodup (fresh : ∀ item ∈ items, key item ∉ seen)
    (distinct : (items.map key).Nodup) : firsts key seen items = items := by
  induction items generalizing seen with
  | nil => rfl
  | cons head rest ih =>
    obtain ⟨unknown, fresh⟩ := List.forall_mem_cons.mp fresh
    obtain ⟨lone, distinct⟩ := List.nodup_cons.mp distinct
    rw [firsts, if_neg (mt List.contains_iff_mem.mp unknown), ih _ distinct]
    intro item member known
    rcases List.mem_cons.mp known with same | known
    · exact lone (same ▸ List.mem_map_of_mem member)
    · exact fresh item member known

private theorem firsts_of_seen (known : ∀ item ∈ items, key item ∈ seen) : firsts key seen items =
    [] := by
  induction items with
  | nil => rfl
  | cons head rest ih =>
    obtain ⟨first, known⟩ := List.forall_mem_cons.mp known
    rw [firsts, if_pos (List.contains_iff_mem.mpr first), ih known]

/-- An item that is kept of the items of several groups comes from the first group with its key. -/
private theorem exists_group_of_mem_firsts {γ : Type} {give : γ → List α} {groups : List γ}
    {item : α} (member : item ∈ firsts key seen (groups.flatMap give)) :
    ∃ before group after known, groups = before ++ group :: after ∧
      item ∈ firsts key known (give group) ∧
      ∀ earlier ∈ before, ∀ other ∈ give earlier, key other ≠ key item := by
  induction groups generalizing seen with
  | nil => cases member
  | cons head rest ih =>
    rw [List.flatMap_cons, firsts_append] at member
    rcases List.mem_append.mp member with member | member
    · exact ⟨[], head, rest, seen, rfl, member, List.forall_mem_nil _⟩
    · have fresh := (exists_split_of_mem_firsts member).1
      obtain ⟨before, group, after, known, rfl, member, first⟩ := ih member
      refine ⟨head :: before, group, after, known, rfl, member, ?_⟩
      apply List.forall_mem_cons.mpr ⟨_, first⟩
      intro other among same
      apply fresh
      rw [List.mem_append, List.mem_reverse, ← same]
      rcases exists_mem_firsts key seen among with known | ⟨kept, among, same⟩
      · exact .inr known
      · exact .inl (same ▸ List.mem_map_of_mem among)

private theorem firsts_twice : firsts key [] (items ++ items) = firsts key [] items := by
  rw [firsts_append, List.append_nil]
  have known : ∀ item ∈ items, key item ∈ ((firsts key [] items).map key).reverse := by
    intro item member
    rcases exists_mem_firsts key [] member with impossible | ⟨kept, member, same⟩
    · cases impossible
    · rw [List.mem_reverse, ← same]
      exact List.mem_map_of_mem member
  rw [firsts_of_seen known, List.append_nil]

end Firsts

namespace FileTree

variable {tree : FileTree} {patterns : List String} {paths : List Path}

/-- The place that a search takes a path to lead to. -/
def spot (tree : FileTree) (path : Path) : List String := (tree.place path).toOption.getD []

/-- The patterns that a search is made with. -/
def searchedPatterns (patterns : List String) : List String :=
  if patterns.isEmpty then sourcePatterns else patterns

/-- The path arguments before the first one on which a search breaks down. -/
def reached (tree : FileTree) (patterns : List String) (paths : List Path) : List Path :=
  paths.takeWhile fun base => decide (tree.Answers patterns base)

/-- What one path does to a sifting. -/
private theorem sift_cons (base path : Path) (seen : List (List String)) (rest : List Path) :
    tree.sift (isIgnored base) seen (path :: rest) =
      if tree.spot path ∈ seen ∨ isIgnored base path = true then
        tree.sift (isIgnored base) seen rest
      else if sizeLimit < tree.size path then
        (tree.sift (isIgnored base) seen rest).map (.oversized path :: ·) id
      else (tree.sift (isIgnored base) (tree.spot path :: seen) rest).map (.file path :: ·) id := by
  rw [sift]
  simp only [Bool.or_eq_true, List.contains_iff_mem]
  rfl

/-- Sifting keeps the first of the wanted paths for every place, and then has seen its place. -/
private theorem sift_eq (tree : FileTree) (base : Path) (seen : List (List String))
    (paths : List Path) :
    let kept := firsts tree.spot seen (paths.filter (tree.isWanted base))
    (tree.sift (isIgnored base) seen paths).1.filterMap Find.file? = kept ∧
      (tree.sift (isIgnored base) seen paths).2 = (kept.map tree.spot).reverse ++ seen := by
  induction paths generalizing seen with
  | nil => exact ⟨rfl, rfl⟩
  | cons path rest ih =>
    rw [sift_cons]
    by_cases wanted : tree.isWanted base path = true
    · obtain ⟨shown, small⟩ := isWanted_iff.mp wanted
      rw [List.filter_cons_of_pos wanted, firsts]
      by_cases known : tree.spot path ∈ seen
      · rw [if_pos (List.contains_iff_mem.mpr known), if_pos (Or.inl known)]
        exact ih seen
      · rw [if_neg (mt List.contains_iff_mem.mp known), if_neg (by simp [known, shown]),
          if_neg small.not_gt]
        obtain ⟨files, places⟩ := ih (tree.spot path :: seen)
        exact ⟨congrArg (path :: ·) files, by simp [places]⟩
    · rw [List.filter_cons_of_neg wanted]
      split_ifs with passed large
      · exact ih seen
      · exact ih seen
      · have shown := Bool.eq_false_iff.mpr fun hidden => passed (.inr hidden)
        exact absurd (isWanted_iff.mpr ⟨shown, not_lt.mp large⟩) wanted

/-- What one path argument does to a search. -/
private theorem search_cons (seen : List (List String)) (base : Path) (rest : List Path) :
    let offered := firsts tree.spot seen (tree.offers patterns base)
    (¬ tree.Answers patterns base ∧
      ∃ breakdown, tree.search patterns seen (base :: rest) = ⟨[], some breakdown⟩) ∨
    (tree.Answers patterns base ∧
      ∃ later, later = tree.search patterns ((offered.map tree.spot).reverse ++ seen) rest ∧
        (tree.search patterns seen (base :: rest)).files = offered ++ later.files ∧
        (tree.search patterns seen (base :: rest)).breakdown = later.breakdown) := by
  rw [search, offers, ← exists_expand_iff]
  cases tree.expand patterns base with
  | error breakdown => exact .inl ⟨by simp, breakdown, rfl⟩
  | ok result =>
    refine .inr ⟨⟨result, rfl⟩, _, rfl, ?_⟩
    cases result with
    | none => exact ⟨rfl, rfl⟩
    | some paths =>
      obtain ⟨files, places⟩ := sift_eq tree base seen paths
      simp only [Discovery.files, List.filterMap_append, files, places]
      exact ⟨trivial, trivial⟩

/-- The files of a search are the first candidates for their places. -/
theorem search_files (seen : List (List String)) (paths : List Path) :
    (tree.search patterns seen paths).files =
      firsts tree.spot seen ((tree.reached patterns paths).flatMap (tree.offers patterns)) := by
  induction paths generalizing seen with
  | nil => rfl
  | cons base rest ih =>
    rw [reached, List.takeWhile_cons]
    rcases search_cons seen base rest with
      ⟨unanswered, breakdown, stopped⟩ | ⟨answers, later, rfl, files, -⟩
    · rw [stopped, decide_eq_false unanswered]
      rfl
    · rw [files, ih, decide_eq_true answers, ← firsts_append]
      rfl

private theorem search_breakdown (seen : List (List String)) (paths : List Path) :
    (tree.search patterns seen paths).breakdown = none ↔
      ∀ base ∈ paths, tree.Answers patterns base := by
  induction paths generalizing seen with
  | nil => exact iff_of_true rfl (List.forall_mem_nil _)
  | cons base rest ih =>
    rw [List.forall_mem_cons]
    rcases search_cons seen base rest with
      ⟨unanswered, breakdown, stopped⟩ | ⟨answers, later, rfl, -, same⟩
    · rw [stopped]
      exact iff_of_false (Option.some_ne_none _) fun both => unanswered both.1
    · rw [same, ih, and_iff_right answers]

private theorem answers_of_mem_reached {base : Path} (member : base ∈ tree.reached patterns paths) :
    tree.Answers patterns base := by
  have kept := List.mem_takeWhile_imp member
  exact of_decide_eq_true kept

private theorem reached_of_answers (answers : ∀ base ∈ paths, tree.Answers patterns base) :
    tree.reached patterns paths = paths := by
  apply List.takeWhile_eq_self_iff.mpr
  intro base member
  exact decide_eq_true (answers base member)

/-- Path arguments that are given twice are reached twice or, when one of them has no answer, only
up to that one. -/
private theorem reached_twice (tree : FileTree) (patterns : List String) (paths : List Path) :
    tree.reached patterns (paths ++ paths) = tree.reached patterns paths ∨
      tree.reached patterns (paths ++ paths) =
        tree.reached patterns paths ++ tree.reached patterns paths := by
  by_cases answers : ∀ base ∈ paths, tree.Answers patterns base
  · right
    rw [reached_of_answers answers]
    apply reached_of_answers
    exact List.forall_mem_append.mpr ⟨answers, answers⟩
  · left
    rw [reached, List.takeWhile_append, if_neg]
    · rfl
    · intro whole
      have same := (List.takeWhile_prefix _).eq_of_length whole
      apply answers
      intro base member
      exact of_decide_eq_true (List.takeWhile_eq_self_iff.mp same base member)

private theorem place_of_isFile {path : Path} (file : tree.isFile path = .ok true) :
    tree.place path = .ok (tree.spot path) := by
  obtain ⟨content, readable, there⟩ := exists_of_isFile file
  rw [lookUp] at there
  split at there
  · cases there
  · split at there
    · next place node found =>
      rw [spot, FileTree.place, found]
      rfl
    · cases there
    · cases there
    · cases there

private theorem place_of_mem_offers {base path : Path} (member : path ∈ tree.offers patterns base) :
    tree.place path = .ok (tree.spot path) :=
  place_of_isFile (isFile_of_mem_offers member)

private theorem discover_eq (tree : FileTree) (patterns : List String) (paths : List Path) :
    tree.discover patterns paths = tree.search (searchedPatterns patterns) [] paths := rfl

/-- A file that was found is offered by a path argument. Nothing that an argument before it offers
leads to its place, and nothing that the same argument offers and that leads there comes before it
in the order of paths. -/
private theorem exists_first_of_mem_files {file : Path}
    (member : file ∈ (tree.discover patterns paths).files) :
    ∃ before base after, tree.reached (searchedPatterns patterns) paths = before ++ base :: after ∧
      file ∈ tree.offers (searchedPatterns patterns) base ∧
      (∀ earlier ∈ before, ∀ path ∈ tree.offers (searchedPatterns patterns) earlier,
        tree.spot path ≠ tree.spot file) ∧
      ∀ path ∈ tree.offers (searchedPatterns patterns) base,
        tree.spot path = tree.spot file → Path.le file path = true := by
  rw [discover_eq, search_files] at member
  obtain ⟨before, base, after, known, split, member, first⟩ := exists_group_of_mem_firsts member
  obtain ⟨-, prior, later, offered, lone⟩ := exists_split_of_mem_firsts member
  have sorted := offers_sorted tree (searchedPatterns patterns) base
  rw [offered] at sorted
  refine ⟨before, base, after, split, ?_, first, ?_⟩
  · rw [offered]
    exact List.mem_append_right _ (List.mem_cons_self ..)
  · intro path among same
    rw [offered] at among
    rcases List.mem_append.mp among with early | late
    · exact absurd same (lone path early)
    · rcases List.mem_cons.mp late with rfl | late
      · exact Path.le_iff.mpr le_rfl
      · exact (List.pairwise_cons.mp (List.pairwise_append.mp sorted).2.1).1 path late

private theorem place_of_mem_files {file : Path}
    (member : file ∈ (tree.discover patterns paths).files) :
    tree.place file = .ok (tree.spot file) := by
  obtain ⟨before, base, after, -, offered, -⟩ := exists_first_of_mem_files member
  exact place_of_mem_offers offered

/-- The places of the files found are those of the acceptable candidates. -/
private theorem exists_mem_files_iff {place : List String} :
    (∃ file ∈ (tree.discover patterns paths).files, tree.place file = .ok place) ↔
      ∃ base ∈ tree.reached (searchedPatterns patterns) paths, ∃ path,
        tree.Acceptable (searchedPatterns patterns) base path ∧ tree.place path = .ok place := by
  constructor
  · rintro ⟨file, member, leads⟩
    obtain ⟨before, base, after, split, offered, -⟩ := exists_first_of_mem_files member
    have among : base ∈ tree.reached (searchedPatterns patterns) paths := by
      rw [split]
      exact List.mem_append_right _ (List.mem_cons_self ..)
    exact ⟨base, among, file, (mem_offers_iff (answers_of_mem_reached among)).mp offered, leads⟩
  · rintro ⟨base, among, path, acceptable, leads⟩
    have offered := (mem_offers_iff (answers_of_mem_reached among)).mpr acceptable
    rcases exists_mem_firsts tree.spot [] (List.mem_flatMap.mpr ⟨base, among, offered⟩) with
      impossible | ⟨file, member, same⟩
    · cases impossible
    · rw [← search_files, ← discover_eq] at member
      refine ⟨file, member, ?_⟩
      rw [place_of_mem_files member, same, ← place_of_mem_offers offered, leads]

private theorem nodup_spots (tree : FileTree) (patterns : List String) (paths : List Path) :
    ((tree.discover patterns paths).files.map tree.spot).Nodup := by
  rw [discover_eq, search_files]
  exact nodup_firsts

/-- Discovery finds every target once and misses none. The files found lead to distinct places, and
these are the places of the acceptable candidates of the path arguments, or of those before the
first argument on which a question has no answer. Each file goes by the name of the first acceptable
candidate for its place, in the order of the arguments and sorted below a directory. The search
breaks down just when a question on some argument has no answer; where none does, only the set of
the arguments decides which places are found. -/
theorem discover_targets (tree : FileTree) (patterns : List String) (paths : List Path) :
    let discovery := tree.discover patterns paths
    let searched := searchedPatterns patterns
    let reached := tree.reached searched paths
    (∀ file ∈ discovery.files, ∃ place, tree.place file = .ok place) ∧
    (discovery.files.map tree.place).Nodup ∧
    (∀ place, (∃ file ∈ discovery.files, tree.place file = .ok place) ↔
      ∃ base ∈ reached, ∃ path, tree.Acceptable searched base path ∧
        tree.place path = .ok place) ∧
    (∀ file ∈ discovery.files, ∃ before base after, reached = before ++ base :: after ∧
      tree.Acceptable searched base file ∧
      (∀ earlier ∈ before, ∀ path, tree.Acceptable searched earlier path →
        tree.place path ≠ tree.place file) ∧
      ∀ path, tree.Acceptable searched base path → tree.place path = tree.place file →
        Path.le file path = true) ∧
    (discovery.breakdown = none ↔ ∀ base ∈ paths, tree.Answers searched base) ∧
    (discovery.breakdown = none → reached = paths ∧
      ∀ others, (∀ base, base ∈ others ↔ base ∈ paths) →
        (tree.discover patterns others).breakdown = none ∧
        ∀ place, (∃ file ∈ (tree.discover patterns others).files, tree.place file = .ok place) ↔
          ∃ file ∈ discovery.files, tree.place file = .ok place) := by
  intro discovery searched reached
  have answered : discovery.breakdown = none ↔ ∀ base ∈ paths, tree.Answers searched base :=
    search_breakdown [] paths
  refine ⟨?_, ?_, fun place => exists_mem_files_iff, ?_, answered, ?_⟩
  · intro file member
    exact ⟨_, place_of_mem_files member⟩
  · have places : discovery.files.map tree.place = (discovery.files.map tree.spot).map .ok := by
      rw [List.map_map]
      exact List.map_congr_left fun file member => place_of_mem_files member
    rw [places]
    exact (nodup_spots tree patterns paths).map fun _ _ => Except.ok.inj
  · intro file member
    obtain ⟨before, base, after, split, offered, first, least⟩ := exists_first_of_mem_files member
    have answers : ∀ other ∈ before ++ base :: after, tree.Answers searched other := by
      rw [← split]
      intro other
      exact answers_of_mem_reached
    have sameSpot {other path : Path} (offered : path ∈ tree.offers searched other)
        (same : tree.place path = tree.place file) : tree.spot path = tree.spot file := by
      rw [place_of_mem_offers offered, place_of_mem_files member] at same
      exact Except.ok.inj same
    obtain ⟨answersBefore, answersBase, -⟩ := List.forall_mem_append.mp answers |>.imp_right
      List.forall_mem_cons.mp
    refine ⟨before, base, after, split, (mem_offers_iff answersBase).mp offered, ?_, ?_⟩
    · intro earlier among path acceptable same
      have offered := (mem_offers_iff (answersBefore earlier among)).mpr acceptable
      exact first earlier among path offered (sameSpot offered same)
    · intro path acceptable same
      have offered := (mem_offers_iff answersBase).mpr acceptable
      exact least path offered (sameSpot offered same)
  · intro whole
    have answers := answered.mp whole
    refine ⟨reached_of_answers answers, ?_⟩
    intro others same
    have answersToo : ∀ base ∈ others, tree.Answers searched base :=
      fun base member => answers base ((same base).mp member)
    refine ⟨(search_breakdown [] others).mpr answersToo, fun place => ?_⟩
    rw [exists_mem_files_iff, exists_mem_files_iff, reached_of_answers answers,
      reached_of_answers answersToo]
    simp only [same]

private theorem expand_of_isFile {base : Path} (file : tree.isFile base = .ok true) :
    tree.expand patterns base = .ok (some [base]) := by
  obtain ⟨content, readable, there⟩ := exists_of_isFile file
  rw [expand, there]
  rfl

private theorem offers_of_isFile {base : Path} (file : tree.isFile base = .ok true)
    (small : tree.size base ≤ sizeLimit) : tree.offers patterns base = [base] := by
  rw [offers, expand_of_isFile file]
  exact List.filter_cons_of_pos (isWanted_iff.mpr ⟨isIgnored_self, small⟩)

/-- Discovery is idempotent. A search for the files that a search has found finds just these, in
their order, with any patterns and without a breakdown, and path arguments that are given twice lead
to the files that they lead to when given once. -/
theorem discover_idempotent (tree : FileTree) (patterns : List String) (paths : List Path) :
    let found := (tree.discover patterns paths).files
    (∀ others, (tree.discover others found).files = found ∧
      (tree.discover others found).breakdown = none) ∧
    (tree.discover patterns (paths ++ paths)).files = found := by
  intro found
  constructor
  · intro others
    have kept : ∀ file ∈ found, tree.isFile file = .ok true ∧ tree.size file ≤ sizeLimit := by
      intro file member
      obtain ⟨before, base, after, -, offered, -⟩ := exists_first_of_mem_files member
      exact ⟨isFile_of_mem_offers offered, size_of_mem_offers offered⟩
    have answers : ∀ file ∈ found, tree.Answers (searchedPatterns others) file := by
      intro file member
      exact exists_expand_iff.mp ⟨_, expand_of_isFile (kept file member).1⟩
    refine ⟨?_, (search_breakdown [] found).mpr answers⟩
    have offered : found.flatMap (tree.offers (searchedPatterns others)) = found := by
      rw [List.flatMap_congr fun file member =>
        offers_of_isFile (kept file member).1 (kept file member).2]
      exact List.flatMap_singleton' found
    rw [discover_eq, search_files, reached_of_answers answers, offered]
    exact firsts_of_nodup (fun _ _ => List.not_mem_nil) (nodup_spots tree patterns paths)
  · have twice : (tree.discover patterns (paths ++ paths)).files = firsts tree.spot []
        ((tree.reached (searchedPatterns patterns) (paths ++ paths)).flatMap
          (tree.offers (searchedPatterns patterns))) := search_files [] _
    rcases reached_twice tree (searchedPatterns patterns) paths with same | doubled
    · rw [twice, same]
      exact (search_files [] paths).symm
    · rw [twice, doubled, List.flatMap_append, firsts_twice]
      exact (search_files [] paths).symm

end FileTree

end LineWidth
