import Mathlib.Data.List.Basic

/-!
# File paths

Paths are texts with names between slashes. To normalize one is to drop empty names and
single dots and to let two dots cancel the name before them; at the front of a relative path
such parents stay. A file system maps lists of names to files and directories. It has no
links, so that looking up a path is looking up the names that it normalizes to.

Nothing here mentions a particular program.
-/

namespace EmotoFleet.FilePaths

/-- The name of a file in its directory. -/
abbrev Name := List Char

/-- The name for the directory above. -/
def parent : Name := ['.', '.']

/-! ## Normalizing -/

/-- The names before and one more name. -/
def push (aboveRoot : Bool) (names : List Name) (name : Name) : List Name :=
  if name = [] ∨ name = ['.'] then names
  else if name = parent then
    if names.getLast?.all (· = parent) then if aboveRoot then names ++ [parent] else names
    else names.dropLast
  else names ++ [name]

/-- The names between the slashes. -/
def components (path : List Char) : List Name := path.splitOn '/'

/-- Names with slashes between them. -/
def written (names : List Name) : List Char := ['/'].intercalate names

/-- The names that are left of a path once every step up is taken. -/
def resolved (aboveRoot : Bool) (path : List Char) : List Name :=
  (components path).foldl (push aboveRoot) []

/-- Whether a path starts at the root. -/
def isAbsolute (path : List Char) : Bool := path.head? = some '/'

/-- Whether a path ends with a slash. -/
def trailingSeparator (path : List Char) : Bool := path.getLast? = some '/'

/-- A path written with its resolved names. -/
def normalize (path : List Char) : List Char :=
  let names := resolved (!isAbsolute path) path
  if path = [] then ['.']
  else if names = [] then
    if isAbsolute path then ['/'] else if trailingSeparator path then ['.', '/'] else ['.']
  else (if isAbsolute path then ['/'] else []) ++ written names ++
    if trailingSeparator path then ['/'] else []

/-- Paths one behind the other, normalised. -/
def join (paths : List (List Char)) : List Char :=
  normalize (written (paths.filter (· ≠ [])))

/-- The rest of a path after the parents at its front, each closed by a slash of either
kind. -/
def stripParents : List Char → List Char
  | '.' :: '.' :: separator :: rest =>
    if separator = '/' ∨ separator = '\\' then stripParents rest else '.' :: '.' :: separator :: rest
  | path => path

/-! ## File systems -/

/-- What a name can stand for. -/
inductive Node (β : Type) where
  | file (content : β)
  | directory
  deriving DecidableEq

/-- A name that a directory may hold. -/
structure Plain (name : Name) : Prop where
  filled : name ≠ []
  noSelf : name ≠ ['.']
  noParent : name ≠ parent
  noSlash : '/' ∉ name

instance (name : Name) : Decidable (Plain name) :=
  decidable_of_iff (name ≠ [] ∧ name ≠ ['.'] ∧ name ≠ parent ∧ '/' ∉ name)
    ⟨fun ⟨filled, noSelf, noParent, noSlash⟩ => ⟨filled, noSelf, noParent, noSlash⟩,
      fun ⟨filled, noSelf, noParent, noSlash⟩ => ⟨filled, noSelf, noParent, noSlash⟩⟩

/-- Files and directories under plain names. -/
structure FileSystem (β : Type) where
  node : List Name → Option (Node β)
  plain : ∀ names, (node names).isSome → ∀ name ∈ names, Plain name

/-- What an absolute path leads to. A file is not found under a path that ends with a
slash. -/
def FileSystem.find {β : Type} (files : FileSystem β) (path : List Char) : Option (Node β) :=
  match files.node (resolved false path) with
  | some (.file content) => if trailingSeparator path then none else some (.file content)
  | other => other

/-- A file with its directories, where there were none. -/
def FileSystem.write {β : Type} (files : FileSystem β) (names : List Name)
    (plain : ∀ name ∈ names, Plain name) (content : β) : FileSystem β where
  node asked :=
    if asked = names then some (.file content)
    else if asked <+: names then files.node asked <|> some .directory
    else files.node asked
  plain := by
    intro asked present
    split at present
    case isTrue same => exact same ▸ plain
    case isFalse =>
      split at present
      case isTrue above => exact fun name listed => plain name (above.subset listed)
      case isFalse => exact files.plain asked present

section Writing

variable {β : Type} {files : FileSystem β} {names asked : List Name}
  {plain : ∀ name ∈ names, Plain name} {content : β}

/-- A written file is there. -/
@[simp] theorem node_write_self : (files.write names plain content).node names = some (.file content) :=
  if_pos rfl

/-- Directories that are there stay. -/
theorem node_write_above (above : asked <+: names) (different : asked ≠ names) :
    (files.write names plain content).node asked = (files.node asked <|> some .directory) :=
  (if_neg different).trans (if_pos above)

end Writing

/-! ## Components -/

/-- The names of two paths with a slash between them are those of both. -/
theorem components_append (left right : List Char) :
    components (left ++ '/' :: right) = components left ++ components right :=
  List.splitOn_append_cons_self left right

/-- A slash at the front adds an empty name. -/
theorem components_cons_slash (path : List Char) : components ('/' :: path) = [] :: components path :=
  components_append [] path

/-- Names that are written out are read back. -/
theorem components_written {names : List Name} (filled : names ≠ [])
    (noSlash : ∀ name ∈ names, '/' ∉ name) : components (written names) = names :=
  List.splitOn_intercalate '/' noSlash filled

/-- No name has a slash. -/
theorem noSlash_of_mem_components {path : List Char} {name : Name}
    (listed : name ∈ components path) : '/' ∉ name := by
  induction path generalizing name with
  | nil =>
    rw [components, List.splitOn_nil, List.mem_singleton] at listed
    rw [listed]
    exact List.not_mem_nil
  | cons first rest inductionHypothesis =>
    rw [components, List.splitOn_cons_eq_if_modifyHead] at listed
    split at listed
    case isTrue =>
      cases List.mem_cons.mp listed with
      | inl empty => exact empty ▸ List.not_mem_nil
      | inr later => exact inductionHypothesis later
    case isFalse different =>
      obtain ⟨head, tail, split⟩ := List.exists_cons_of_ne_nil (List.splitOn_ne_nil '/' rest)
      rw [split, List.modifyHead_cons] at listed
      rw [components, split] at inductionHypothesis
      cases List.mem_cons.mp listed with
      | inl here =>
        rw [here, List.mem_cons, not_or]
        refine ⟨?_, inductionHypothesis List.mem_cons_self⟩
        exact fun slash => different (beq_iff_eq.mpr slash.symm)
      | inr later => exact inductionHypothesis (List.mem_cons_of_mem _ later)

/-! ## What normalizing leaves -/

/-- Parents at the front, and plain names after them. -/
def Reduced (aboveRoot : Bool) (names : List Name) : Prop :=
  ∃ ups rest, names = List.replicate ups parent ++ rest ∧ (aboveRoot = false → ups = 0) ∧
    ∀ name ∈ rest, Plain name

/-- Taking a name keeps the list reduced. -/
theorem push_reduced {aboveRoot : Bool} {names : List Name} (reduced : Reduced aboveRoot names)
    {name : Name} (noSlash : '/' ∉ name) : Reduced aboveRoot (push aboveRoot names name) := by
  obtain ⟨ups, rest, rfl, rooted, plain⟩ := reduced
  rw [push]
  split
  case isTrue => exact ⟨ups, rest, rfl, rooted, plain⟩
  case isFalse named =>
    obtain ⟨filled, noSelf⟩ := not_or.mp named
    split
    case isTrue =>
      cases last : rest.getLast? with
      | none =>
        obtain rfl := List.getLast?_eq_none_iff.mp last
        split
        case isTrue =>
          split
          case isTrue allowed =>
            refine ⟨ups + 1, [], ?_, fun refused => ?_, plain⟩
            · rw [List.append_nil, List.append_nil, List.replicate_succ']
            · exact Bool.noConfusion (allowed.symm.trans refused)
          case isFalse => exact ⟨ups, [], rfl, rooted, plain⟩
        case isFalse same =>
          -- with no plain name the last one, if any, is a parent
          refine absurd ?_ same
          rw [List.append_nil, List.getLast?_replicate]
          split <;> simp
      | some final =>
        have nonempty : rest ≠ [] := fun empty => by simp [empty] at last
        have ending : (List.replicate ups parent ++ rest).getLast? = some final := by
          rw [List.getLast?_append, last, Option.some_or]
        have real := plain final (List.mem_of_getLast? last)
        rw [ending, if_neg (by simpa using real.noParent), List.dropLast_append_of_ne_nil nonempty]
        exact ⟨ups, rest.dropLast, rfl, rooted, fun name kept => plain name (List.dropLast_subset rest kept)⟩
    case isFalse noParent =>
      refine ⟨ups, rest ++ [name], (List.append_assoc _ _ _), rooted, ?_⟩
      intro other listed
      cases List.mem_append.mp listed with
      | inl before => exact plain other before
      | inr new =>
        rw [List.mem_singleton] at new
        exact new ▸ ⟨filled, noSelf, noParent, noSlash⟩

/-- Taking names keeps the list reduced. -/
theorem foldl_push_reduced {aboveRoot : Bool} (added : List Name) {names : List Name}
    (reduced : Reduced aboveRoot names) (noSlash : ∀ name ∈ added, '/' ∉ name) :
    Reduced aboveRoot (added.foldl (push aboveRoot) names) := by
  induction added generalizing names with
  | nil => exact reduced
  | cons first rest inductionHypothesis =>
    refine inductionHypothesis (push_reduced reduced (noSlash first List.mem_cons_self)) ?_
    exact fun name listed => noSlash name (List.mem_cons_of_mem _ listed)

/-- What is left of a path is reduced. -/
theorem resolved_reduced (aboveRoot : Bool) (path : List Char) :
    Reduced aboveRoot (resolved aboveRoot path) := by
  apply foldl_push_reduced (components path)
  · exact ⟨0, [], rfl, fun _ => rfl, fun name listed => (nomatch listed)⟩
  · exact fun name => noSlash_of_mem_components

/-- Without parents nothing is taken away. -/
theorem foldl_push_inside (aboveRoot : Bool) {added : List Name} (noParent : parent ∉ added)
    (names : List Name) : added.foldl (push aboveRoot) names =
      names ++ added.filter fun name => decide (name ≠ [] ∧ name ≠ ['.']) := by
  induction added generalizing names with
  | nil => exact (List.append_nil names).symm
  | cons first rest inductionHypothesis =>
    obtain ⟨here, later⟩ := not_or.mp (mt List.mem_cons.mpr noParent)
    rw [List.foldl_cons, inductionHypothesis later, push]
    by_cases skipped : first = [] ∨ first = ['.']
    case pos =>
      rw [if_pos skipped, List.filter_cons_of_neg]
      simpa [or_iff_not_imp_left] using skipped
    case neg =>
      rw [if_neg skipped, if_neg (Ne.symm here), List.filter_cons_of_pos, List.append_assoc]
      · rfl
      · simpa using skipped

/-- Plain names are taken as they are. -/
theorem foldl_push_plain (aboveRoot : Bool) {added : List Name} (plain : ∀ name ∈ added, Plain name)
    (names : List Name) : added.foldl (push aboveRoot) names = names ++ added := by
  rw [foldl_push_inside aboveRoot fun listed => (plain parent listed).noParent rfl, List.filter_eq_self.mpr]
  intro name listed
  exact decide_eq_true ⟨(plain name listed).filled, (plain name listed).noSelf⟩

/-- Below the root only plain names are left. -/
theorem resolved_plain (path : List Char) : ∀ name ∈ resolved false path, Plain name := by
  obtain ⟨ups, rest, same, rooted, plain⟩ := resolved_reduced false path
  rw [same, rooted rfl]
  exact plain

/-- The names of a normalised path are those that are left. -/
theorem components_normalize {path : List Char} (filled : path ≠ [])
    (led : resolved (!isAbsolute path) path ≠ []) :
    components (normalize path) = (if isAbsolute path then [[]] else []) ++
      resolved (!isAbsolute path) path ++ if trailingSeparator path then [[]] else [] := by
  have noSlash : ∀ name ∈ resolved (!isAbsolute path) path, '/' ∉ name := by
    obtain ⟨ups, rest, same, -, plain⟩ := resolved_reduced (!isAbsolute path) path
    rw [same]
    intro name listed
    cases List.mem_append.mp listed with
    | inl up =>
      rw [List.eq_of_mem_replicate up]
      decide
    | inr below => exact (plain name below).noSlash
  have spelled := components_written led noSlash
  have empty : components [] = [[]] := rfl
  rw [normalize, if_neg filled, if_neg led]
  generalize resolved (!isAbsolute path) path = names at spelled ⊢
  cases isAbsolute path with
  | true =>
    cases trailingSeparator path with
    | true =>
      simp only [if_true, List.cons_append, List.nil_append]
      rw [components_cons_slash, components_append, empty, spelled]
    | false =>
      simp only [if_true, Bool.false_eq_true, if_false, List.cons_append, List.nil_append,
        List.append_nil]
      rw [components_cons_slash, spelled]
  | false =>
    cases trailingSeparator path with
    | true =>
      simp only [if_true, Bool.false_eq_true, if_false, List.nil_append]
      rw [components_append, empty, spelled]
    | false =>
      simp only [Bool.false_eq_true, if_false, List.nil_append, List.append_nil]
      rw [spelled]

/-- An absolute path leads where its normal form leads. -/
theorem resolved_normalize {path : List Char} (absolute : isAbsolute path = true) :
    resolved false (normalize path) = resolved false path := by
  have filled : path ≠ [] := fun empty => by simp [isAbsolute, empty] at absolute
  by_cases led : resolved false path = []
  case pos =>
    rw [normalize, if_neg filled, if_pos (by rw [absolute]; exact led), if_pos absolute, led]
    decide
  case neg =>
    have split := components_normalize filled (by rw [absolute]; exact led)
    rw [absolute] at split
    rw [resolved, split, if_pos rfl, List.foldl_append, List.foldl_append]
    have start : ([[]] : List Name).foldl (push false) [] = [] := rfl
    rw [start, Bool.not_true, foldl_push_plain false (resolved_plain path), List.nil_append]
    split
    case isTrue => rfl
    case isFalse => rfl

/-! ## Stripping parents -/

/-- No parent after a name that is none. -/
def ParentsFirst (names : List Name) : Prop :=
  ∃ ups rest, names = List.replicate ups parent ++ rest ∧ parent ∉ rest

/-- A normalised path steps up only at its beginning. -/
theorem normalize_parentsFirst (path : List Char) : ParentsFirst (components (normalize path)) := by
  by_cases filled : path = []
  case pos =>
    rw [normalize, if_pos filled]
    exact ⟨0, _, rfl, by decide⟩
  by_cases led : resolved (!isAbsolute path) path = []
  case pos =>
    rw [normalize, if_neg filled, if_pos led]
    split
    case isTrue => exact ⟨0, _, rfl, by decide⟩
    case isFalse =>
      split
      case isTrue => exact ⟨0, _, rfl, by decide⟩
      case isFalse => exact ⟨0, _, rfl, by decide⟩
  rw [components_normalize filled led]
  obtain ⟨ups, rest, same, rooted, plain⟩ := resolved_reduced (!isAbsolute path) path
  have noParent : parent ∉ rest ++ if trailingSeparator path then [[]] else [] := by
    intro listed
    cases List.mem_append.mp listed with
    | inl below => exact (plain parent below).noParent rfl
    | inr ending =>
      split at ending
      case isTrue => simp [parent] at ending
      case isFalse => cases ending
  rw [same]
  cases absolute : isAbsolute path with
  | true =>
    rw [rooted (by rw [absolute]; rfl)]
    refine ⟨0, [] :: (rest ++ if trailingSeparator path then [[]] else []), rfl, ?_⟩
    intro listed
    cases List.mem_cons.mp listed with
    | inl empty => cases empty
    | inr later => exact noParent later
  | false =>
    refine ⟨ups, _, ?_, noParent⟩
    rw [if_neg Bool.false_ne_true, List.nil_append, List.append_assoc]

/-- Steps up come first when the first name is one or none follows. -/
theorem parentsFirst_cons {first : Name} {rest : List Name} :
    ParentsFirst (first :: rest) ↔
      first = parent ∧ ParentsFirst rest ∨ first ≠ parent ∧ parent ∉ rest := by
  constructor
  · rintro ⟨ups, others, same, noParent⟩
    cases ups with
    | zero =>
      rw [List.replicate_zero, List.nil_append] at same
      rw [← same, List.mem_cons, not_or] at noParent
      exact .inr ⟨Ne.symm noParent.1, noParent.2⟩
    | succ ups =>
      rw [List.replicate_succ, List.cons_append, List.cons.injEq] at same
      exact .inl ⟨same.1, ups, others, same.2, noParent⟩
  · rintro (⟨rfl, ups, others, rfl, noParent⟩ | ⟨different, noParent⟩)
    · exact ⟨ups + 1, others, rfl, noParent⟩
    · exact ⟨0, first :: rest, rfl, not_or.mpr ⟨Ne.symm different, noParent⟩ ∘ List.mem_cons.mp⟩

/-- A longer name at the front is no parent. -/
theorem components_dots {separator : Char} (noSlash : separator ≠ '/') (rest : List Char) :
    ∃ head tail, components rest = head :: tail ∧
      components ('.' :: '.' :: separator :: rest) = ('.' :: '.' :: separator :: head) :: tail := by
  obtain ⟨head, tail, split⟩ := List.exists_cons_of_ne_nil (List.splitOn_ne_nil '/' rest)
  refine ⟨head, tail, split, ?_⟩
  have dot : ('.' == '/') = false := rfl
  have other : (separator == '/') = false := beq_eq_false_iff_ne.mpr noSlash
  rw [components, List.splitOn_cons_eq_if_modifyHead, List.splitOn_cons_eq_if_modifyHead,
    List.splitOn_cons_eq_if_modifyHead, split, dot, other]
  rfl

/-- After a normal form has lost the parents at its front, two dots are all that is left, or
it goes up no more. -/
theorem stripParents_inside {path : List Char} (ordered : ParentsFirst (components path)) :
    stripParents path = parent ∨ parent ∉ components (stripParents path) := by
  fun_induction stripParents path with
  | case1 separator rest closed inductionHypothesis =>
    apply inductionHypothesis
    by_cases slash : separator = '/'
    case pos =>
      have up : components ('.' :: '.' :: separator :: rest) = parent :: components rest := by
        rw [slash]
        exact components_append parent rest
      rw [up, parentsFirst_cons] at ordered
      obtain ⟨-, fewer⟩ | ⟨different, -⟩ := ordered
      · exact fewer
      · exact absurd rfl different
    case neg =>
      -- a parent that the backslash hid may come to the front
      obtain ⟨head, tail, split, longer⟩ := components_dots slash rest
      rw [longer, parentsFirst_cons] at ordered
      obtain ⟨same, -⟩ | ⟨-, noParent⟩ := ordered
      · simp [parent] at same
      · rw [split, parentsFirst_cons]
        by_cases front : head = parent
        case pos => exact .inl ⟨front, 0, tail, rfl, noParent⟩
        case neg => exact .inr ⟨front, noParent⟩
  | case2 separator rest closed =>
    obtain ⟨slash, -⟩ := not_or.mp closed
    obtain ⟨head, tail, -, longer⟩ := components_dots slash rest
    rw [longer, parentsFirst_cons] at ordered
    right
    obtain ⟨same, -⟩ | ⟨different, noParent⟩ := ordered
    · simp [parent] at same
    · rw [longer, List.mem_cons, not_or]
      exact ⟨Ne.symm different, noParent⟩
  | case3 path unmatched =>
    obtain ⟨head, tail, split⟩ := List.exists_cons_of_ne_nil (List.splitOn_ne_nil '/' path)
    have spelled : ['/'].intercalate (head :: tail) = path := split ▸ List.intercalate_splitOn '/'
    rw [components, split, parentsFirst_cons] at ordered
    obtain ⟨rfl, -⟩ | ⟨different, noParent⟩ := ordered
    · left
      cases tail with
      | nil => exact spelled.symm.trans List.intercalate_singleton
      | cons next others =>
        rw [List.intercalate_cons_cons] at spelled
        exact (unmatched '/' _ spelled.symm).elim
    · right
      rw [components, split, List.mem_cons, not_or]
      exact ⟨Ne.symm different, noParent⟩

/-- A path that does not start with a dot has no steps to strip. -/
theorem stripParents_eq_self {path : List Char} (noDot : path.head? ≠ some '.') :
    stripParents path = path := by
  fun_cases stripParents path with
  | case1 separator rest closed => exact absurd rfl noDot
  | case2 separator rest closed => rfl
  | case3 path unmatched => rfl

/-! ## Paths below a root -/

/-- Joining a path to a root writes it behind the root. -/
theorem join_root {root : List Name} {path : List Char} (filled : path ≠ []) :
    join ['/' :: written root, path] = normalize ('/' :: written root ++ '/' :: path) := by
  have both : ['/' :: written root, path].filter (· ≠ []) = ['/' :: written root, path] := by
    simp [filled]
  rw [join, both, written, List.intercalate_cons_cons, List.intercalate_singleton, List.append_assoc]
  rfl

section Below

variable {root : List Name} (plain : ∀ name ∈ root, Plain name)

include plain

/-- A root that is written out resolves to itself. -/
theorem components_root : (components ('/' :: written root)).foldl (push false) [] = root := by
  rw [components_cons_slash, List.foldl_cons]
  have start : push false [] [] = [] := rfl
  rw [start]
  by_cases empty : root = []
  case pos =>
    rw [empty]
    rfl
  case neg =>
    rw [components_written empty fun name listed => (plain name listed).noSlash]
    exact foldl_push_plain false plain []

/-- Where a path leads that is put below a root. -/
theorem resolved_join (path : List Char) :
    resolved false (join ['/' :: written root, path]) =
      (components path).foldl (push false) root := by
  by_cases empty : path = []
  case pos =>
    have one : ['/' :: written root, path].filter (· ≠ []) = ['/' :: written root] := by
      simp [empty]
    rw [join, one, written, List.intercalate_singleton, resolved_normalize rfl, resolved,
      components_root plain, empty]
    rfl
  case neg =>
    rw [join_root empty, resolved_normalize rfl, resolved, components_append, List.foldl_append,
      components_root plain]

/-- A path whose parents are stripped stays below the root, but for two dots alone. -/
theorem resolved_join_stripParents {path : List Char}
    (goesOn : stripParents (normalize path) ≠ parent) :
    ∃ below, resolved false (join ['/' :: written root, stripParents (normalize path)]) =
      root ++ below := by
  rw [resolved_join plain]
  have noParent := (stripParents_inside (normalize_parentsFirst path)).resolve_left goesOn
  exact ⟨_, foldl_push_inside false noParent root⟩

end Below

/-! ## A path for every file -/

/-- A path whose last name is not empty ends without a slash. -/
theorem trailingSeparator_eq_false {path : List Char} {names : List Name} {name : Name}
    (split : components path = names ++ [name]) (filled : name ≠ []) :
    trailingSeparator path = false := by
  rw [trailingSeparator, decide_eq_false_iff_not]
  intro slash
  obtain ⟨front, rfl⟩ := List.getLast?_eq_some_iff.mp slash
  rw [components_append] at split
  exact filled (List.append_singleton_inj.mp split).2.symm

/-- A path whose first name is not empty does not start at the root. -/
theorem isAbsolute_eq_false {path : List Char} {name : Name} {names : List Name}
    (split : components path = name :: names) (filled : name ≠ []) : isAbsolute path = false := by
  rw [isAbsolute, decide_eq_false_iff_not]
  intro slash
  obtain ⟨rest, rfl⟩ := List.head?_eq_some_iff.mp slash
  rw [components_cons_slash] at split
  exact filled (List.cons.inj split).1.symm

section Found

variable {below : List Name} (plain : ∀ name ∈ below, Plain name) (filled : below ≠ [])

include plain filled

/-- The names of a path below the root. -/
theorem components_below : components ('/' :: written below) = [] :: below := by
  rw [components_cons_slash, components_written filled fun name listed => (plain name listed).noSlash]

/-- A path of plain names is normal. -/
theorem normalize_written : normalize (written below) = written below := by
  have split := components_written filled fun name listed => (plain name listed).noSlash
  obtain ⟨front, last, ends⟩ := (List.eq_nil_or_concat' below).resolve_left filled
  have lastFilled : last ≠ [] := (plain last (ends ▸ List.mem_append_right _ List.mem_cons_self)).filled
  have closed := trailingSeparator_eq_false (split.trans ends) lastFilled
  obtain ⟨first, rest, begins⟩ := List.exists_cons_of_ne_nil filled
  have firstFilled : first ≠ [] := (plain first (begins ▸ List.mem_cons_self)).filled
  have relative := isAbsolute_eq_false (split.trans begins) firstFilled
  have nonempty : written below ≠ [] := by
    intro empty
    rw [empty] at split
    exact firstFilled (List.cons.inj (split.trans begins)).1.symm
  have led : resolved true (written below) = below := by
    rw [resolved, split]
    exact foldl_push_plain true plain []
  rw [normalize, relative, Bool.not_false, led, if_neg nonempty, if_neg filled, closed,
    if_neg Bool.false_ne_true, List.nil_append]
  exact List.append_nil _

/-- A path from the root on is normal but for a dot at its end. -/
theorem normalize_dotted : normalize ('/' :: written below ++ ['/', '.']) = '/' :: written below := by
  have split : components ('/' :: written below ++ ['/', '.']) = ([] :: below) ++ [['.']] := by
    rw [components_append, components_below plain filled]
    rfl
  have closed := trailingSeparator_eq_false split (by decide)
  have led : resolved false ('/' :: written below ++ ['/', '.']) = below := by
    have start : ([] :: below).foldl (push false) [] = below := foldl_push_plain false plain []
    rw [resolved, split, List.foldl_append, start]
    rfl
  have absolute : isAbsolute ('/' :: written below ++ ['/', '.']) = true := rfl
  have nonempty : '/' :: written below ++ ['/', '.'] ≠ [] := List.cons_ne_nil _ _
  rw [normalize, if_neg nonempty, absolute, Bool.not_true, led, if_neg filled, closed,
    if_pos rfl, if_neg Bool.false_ne_true, List.append_nil]
  rfl

/-- A path of plain names resolves below its root. -/
theorem resolved_join_below {root : List Name} (plainRoot : ∀ name ∈ root, Plain name) :
    resolved false (join ['/' :: written root, '/' :: written below]) = root ++ below := by
  rw [resolved_join plainRoot, components_below plain filled, List.foldl_cons]
  have start : push false root [] = root := rfl
  rw [start, foldl_push_plain false plain]

/-- What a path below the root names is the node of its names. -/
theorem find_join {β : Type} {files : FileSystem β} {root : List Name}
    (plainRoot : ∀ name ∈ root, Plain name) :
    files.find (join ['/' :: written root, '/' :: written below]) = files.node (root ++ below) := by
  obtain ⟨front, last, ends⟩ := (List.eq_nil_or_concat' below).resolve_left filled
  have lastFilled : last ≠ [] := (plain last (ends ▸ List.mem_append_right _ List.mem_cons_self)).filled
  have led := resolved_join_below plain filled plainRoot
  have closed : trailingSeparator (join ['/' :: written root, '/' :: written below]) = false := by
    have nonempty : '/' :: written below ≠ [] := List.cons_ne_nil _ _
    have split : components ('/' :: written root ++ '/' :: '/' :: written below) =
        (components ('/' :: written root) ++ [] :: front) ++ [last] := by
      rw [components_append, components_below plain filled, ends, List.append_assoc]
      rfl
    have unclosed := trailingSeparator_eq_false split lastFilled
    rw [join_root nonempty] at led ⊢
    rw [resolved_normalize rfl] at led
    have absolute : isAbsolute ('/' :: written root ++ '/' :: '/' :: written below) = true := rfl
    have long : '/' :: written root ++ '/' :: '/' :: written below ≠ [] := List.cons_ne_nil _ _
    have normal := components_normalize long (by
      rw [absolute, Bool.not_true, led]
      exact List.append_ne_nil_of_right_ne_nil root filled)
    rw [absolute, Bool.not_true, led, unclosed, if_pos rfl, if_neg Bool.false_ne_true,
      List.append_nil] at normal
    have grouped : [[]] ++ (root ++ below) = ([[]] ++ (root ++ front)) ++ [last] := by
      rw [ends, List.append_assoc, List.append_assoc]
    exact trailingSeparator_eq_false (normal.trans grouped) lastFilled
  rw [FileSystem.find, led, closed]
  cases files.node (root ++ below) with
  | none => rfl
  | some node =>
    cases node with
    | file content => rfl
    | directory => rfl

end Found

end EmotoFleet.FilePaths
