import RamlScaffold.Proofs.Service.Described
import RamlScaffold.Proofs.Service.GoScopes
import RamlScaffold.Proofs.Text.Affixes
import RamlScaffold.Proofs.Text.Occurrence

/-
  The standard packages that Go sources import and use.

  Imports and uses are read off the lines of a source: imports
  in its import block, uses in the lines around it.

  Main declarations:
    * `Go.StdPackage`
    * `Go.StdPackage.OccursIn`, `Go.StdPackage.IsUsedIn`
    * `Go.MentionsOnly`, `Go.Uses`
    * `Go.imports`, `Go.rest`
    * `Go.StdPackage.IsUsed`
    * `Go.ImportsFollowUsage`, `Go.ImportsFollowMentions`
    * `Go.ImportsUsed`, `Go.ImportsUsed.followMentions`
    * `Go.AllKeep`, `Go.ImportsUsed.followUsage`
-/

------------------------------------------------------------
-- Packages
------------------------------------------------------------

namespace RamlScaffold.Go

/- A standard package that services need. -/
inductive StdPackage where
  | bytes
  | json
  | fmt
  | http
deriving DecidableEq, Repr

namespace StdPackage

def all : List StdPackage :=
  [.bytes, .json, .fmt, .http]

theorem mem_all (pkg : StdPackage) : pkg ∈ all := by
  cases pkg <;> decide

/- The path that a package is imported by. -/
def path : StdPackage → String
  | .bytes => "bytes"
  | .json => "encoding/json"
  | .fmt => "fmt"
  | .http => "net/http"

/- The name that a package has in a file that imports it. -/
def name : StdPackage → String
  | .bytes => "bytes"
  | .json => "json"
  | .fmt => "fmt"
  | .http => "http"

/- What stands in front of the names of a package. -/
def qualifier : StdPackage → String
  | .bytes => "bytes."
  | .json => "json."
  | .fmt => "fmt."
  | .http => "http."

/- Whether a text holds the qualifier of a package. -/
def OccursIn (pkg : StdPackage) (text : String) : Prop :=
  Text.Occurs pkg.qualifier text

/- What may stand in front of the name of a package. -/
def parts (c : Char) : Bool :=
  !Alphabet.isAlphanumeric c && c != '_' && c != '.'

/-
  Whether a text uses a package: its qualifier is a word of
  its own there, in front of an exported name.
-/
def IsUsedIn (pkg : StdPackage) (text : String) : Prop :=
  ∃ before name,
    parts before = true ∧ Alphabet.isCapital name = true ∧
      before :: (pkg.qualifier.toList ++ [name]) <:+:
        text.toList

variable {pkg : StdPackage} {text : String}

theorem isUsedIn_ofList
    (before name : Char)
    {chars : List Char}
    (hUse :
      parts before = true ∧ Alphabet.isCapital name = true ∧
        before :: (pkg.qualifier.toList ++ [name]) <:+: chars) :
    pkg.IsUsedIn (String.ofList chars) := by
  refine ⟨before, name, hUse.1, hUse.2.1, ?_⟩
  rw [String.toList_ofList]
  exact hUse.2.2

theorem IsUsedIn.append_left
    (hUsed : pkg.IsUsedIn text)
    (front : String) :
    pkg.IsUsedIn (front ++ text) := by
  rcases hUsed with ⟨before, name, hBefore, hName, hUse⟩
  refine ⟨before, name, hBefore, hName, ?_⟩
  rw [String.toList_append]
  exact hUse.trans (List.suffix_append _ _).isInfix

theorem IsUsedIn.append_right
    (hUsed : pkg.IsUsedIn text)
    (back : String) :
    pkg.IsUsedIn (text ++ back) := by
  rcases hUsed with ⟨before, name, hBefore, hName, hUse⟩
  refine ⟨before, name, hBefore, hName, ?_⟩
  rw [String.toList_append]
  exact hUse.trans (List.prefix_append _ _).isInfix

theorem IsUsedIn.occursIn
    (hUsed : pkg.IsUsedIn text) :
    pkg.OccursIn text := by
  rcases hUsed with ⟨before, name, -, -, hUse⟩
  refine List.IsInfix.trans ?_ hUse
  exact ⟨[before], [name], rfl⟩

end StdPackage

end RamlScaffold.Go

------------------------------------------------------------
-- Mentions
------------------------------------------------------------

namespace RamlScaffold.Go

/- The letters of which qualifiers are made. -/
def letters : List Char :=
  ['b', 'y', 't', 'e', 's', 'j', 'o', 'n', 'f', 'm', 'h', 'p']

/- What stands in qualifiers behind their first letters. -/
def laterLetters : List Char :=
  ['y', 't', 'e', 's', 'o', 'n', 'm', 'p', '.']

namespace StdPackage

theorem mem_letters (pkg : StdPackage) :
    ∀ c ∈ pkg.qualifier.toList.dropLast, c ∈ letters := by
  apply Alphabet.forall_mem_of_all
  cases pkg <;> decide

theorem mem_laterLetters (pkg : StdPackage) :
    ∀ c ∈ pkg.qualifier.toList.tail, c ∈ laterLetters := by
  apply Alphabet.forall_mem_of_all
  cases pkg <;> decide

end StdPackage

/- Whether a text mentions no package at all. -/
def MentionsNone (text : String) : Prop :=
  ∀ pkg : StdPackage, ¬ pkg.OccursIn text

/- Whether a text mentions no packages but some. -/
def MentionsOnly
    (packages : List StdPackage)
    (text : String) : Prop :=
  ∀ pkg : StdPackage, pkg.OccursIn text → pkg ∈ packages

variable {packages : List StdPackage}

theorem MentionsOnly.mono
    {other : List StdPackage}
    (hOther : ∀ pkg ∈ packages, pkg ∈ other)
    {text : String}
    (hText : MentionsOnly packages text) :
    MentionsOnly other text :=
  fun pkg hOccurs => hOther pkg (hText pkg hOccurs)

theorem MentionsNone.mentionsOnly
    {text : String}
    (hText : MentionsNone text)
    (packages : List StdPackage) :
    MentionsOnly packages text :=
  fun pkg hOccurs => absurd hOccurs (hText pkg)

/- A text without dots has no qualifier in it. -/
theorem mentionsNone_of_not_mem
    {text : String}
    (hDot : '.' ∉ text.toList) :
    MentionsNone text := by
  intro pkg
  have hQualifier : '.' ∈ pkg.qualifier.toList := by
    cases pkg <;> decide
  exact Text.not_occurs_of_not_mem hQualifier hDot

/- Only a text with a dot is looked through for qualifiers. -/
theorem mentionsOnly_ofList
    (packages : List StdPackage)
    (text : List Char) :
    MentionsOnly packages (String.ofList text) ↔
      ('.' ∈ text →
        ∀ pkg ∈ StdPackage.all,
          pkg.qualifier.toList <:+: text → pkg ∈ packages) := by
  constructor
  · intro hText _ pkg _ hOccurs
    apply hText pkg
    unfold StdPackage.OccursIn Text.Occurs
    rw [String.toList_ofList]
    exact hOccurs
  · intro hText
    by_cases hDot : '.' ∈ text
    · intro pkg hOccurs
      unfold StdPackage.OccursIn Text.Occurs at hOccurs
      rw [String.toList_ofList] at hOccurs
      exact hText hDot pkg pkg.mem_all hOccurs
    · apply MentionsNone.mentionsOnly
      apply mentionsNone_of_not_mem
      rw [String.toList_ofList]
      exact hDot

theorem mentionsOnly_eq_true
    {text : String}
    (hText : MentionsOnly packages text) :
    MentionsOnly packages text = True :=
  eq_true hText

theorem mentionsOnly_append_iff
    {first second : String}
    (hIff :
      ∀ pkg : StdPackage,
        pkg.OccursIn (first ++ second) ↔
          pkg.OccursIn first ∨ pkg.OccursIn second) :
    MentionsOnly packages (first ++ second) ↔
      MentionsOnly packages first ∧
        MentionsOnly packages second := by
  simp only [MentionsOnly, hIff, or_imp, forall_and]

/- No qualifier begins in front of the end of such a text. -/
@[simp] theorem mentionsOnly_append_iff_of_ends
    {first : String}
    (hFirst : Text.EndsOutside letters first)
    (second : String) :
    MentionsOnly packages (first ++ second) ↔
      MentionsOnly packages first ∧
        MentionsOnly packages second :=
  mentionsOnly_append_iff
    (fun pkg =>
      Text.occurs_append_iff_of_ends pkg.mem_letters hFirst
        second)

/- No qualifier goes on behind the start of such a text. -/
@[simp] theorem mentionsOnly_append_iff_of_starts
    {second : String}
    (hSecond : Text.StartsOutside laterLetters second)
    (first : String) :
    MentionsOnly packages (first ++ second) ↔
      MentionsOnly packages first ∧
        MentionsOnly packages second :=
  mentionsOnly_append_iff
    (fun pkg =>
      Text.occurs_append_iff_of_starts pkg.mem_laterLetters
        first hSecond)

@[simp] theorem mentionsOnly_append_append_iff_of_starts
    {second : String}
    (hSecond : Text.StartsOutside laterLetters second)
    (first third : String) :
    MentionsOnly packages (first ++ (second ++ third)) ↔
      MentionsOnly packages first ∧
        MentionsOnly packages (second ++ third) :=
  mentionsOnly_append_iff_of_starts
    (Text.startsOutside_append hSecond third) first

end RamlScaffold.Go

------------------------------------------------------------
-- Uses
------------------------------------------------------------

namespace RamlScaffold.Go

/- Lines that mention no packages but some. -/
def AllMention
    (packages : List StdPackage)
    (lines : List String) : Prop :=
  ∀ line ∈ lines, MentionsOnly packages line

section

variable (packages : List StdPackage)

@[simp] theorem allMention_nil : AllMention packages [] := by
  simp [AllMention]

@[simp] theorem allMention_cons
    (line : String)
    (lines : List String) :
    AllMention packages (line :: lines) ↔
      MentionsOnly packages line ∧ AllMention packages lines := by
  simp [AllMention]

@[simp] theorem allMention_append
    (first second : List String) :
    AllMention packages (first ++ second) ↔
      AllMention packages first ∧
        AllMention packages second := by
  simp [AllMention, or_imp, forall_and]

theorem allMention_map
    {α : Type}
    {items : List α}
    {line : α → String}
    (hLine : ∀ item ∈ items, MentionsOnly packages (line item)) :
    AllMention packages (items.map line) :=
  List.forall_mem_map.mpr hLine

end

/- Lines that use some packages, and mention no others. -/
structure Uses
    (lines : List String)
    (packages : List StdPackage) : Prop where
  used :
    ∀ pkg ∈ packages,
      ∃ line ∈ lines, StdPackage.IsUsedIn pkg line
  only : AllMention packages lines

namespace Uses

variable {lines other : List String}
variable {packages others : List StdPackage}

theorem of_allMention_nil (hLines : AllMention [] lines) :
    Uses lines [] where
  used := by
    intro pkg hPkg
    cases hPkg
  only := hLines

theorem of_line
    {line : String}
    (hUsed :
      ∀ pkg ∈ packages, StdPackage.IsUsedIn pkg line)
    (hOnly : MentionsOnly packages line) :
    Uses [line] packages where
  used := by
    intro pkg hPkg
    exact ⟨line, List.mem_cons_self, hUsed pkg hPkg⟩
  only := by
    simp [hOnly]

theorem append
    (hLines : Uses lines packages)
    (hOther : Uses other others) :
    Uses (lines ++ other) (packages ++ others) where
  used := by
    intro pkg hPkg
    rcases List.mem_append.mp hPkg with hPkg | hPkg
    · rcases hLines.used pkg hPkg with ⟨line, hLine, hUsed⟩
      exact ⟨line, List.mem_append_left other hLine, hUsed⟩
    · rcases hOther.used pkg hPkg with ⟨line, hLine, hUsed⟩
      exact ⟨line, List.mem_append_right lines hLine, hUsed⟩
  only := by
    intro line hLine
    rcases List.mem_append.mp hLine with hLine | hLine
    · exact (hLines.only line hLine).mono
        (fun pkg hPkg => List.mem_append_left others hPkg)
    · exact (hOther.only line hLine).mono
        (fun pkg hPkg => List.mem_append_right packages hPkg)

/- Lines that mention nothing do not matter. -/
theorem append_plain
    (hLines : Uses lines packages)
    (hOther : AllMention [] other) :
    Uses (lines ++ other) packages := by
  have hBoth := hLines.append (of_allMention_nil hOther)
  rwa [List.append_nil] at hBoth

theorem plain_append
    (hLines : AllMention [] lines)
    (hOther : Uses other others) :
    Uses (lines ++ other) others :=
  (of_allMention_nil hLines).append hOther

theorem flatMap
    {α : Type}
    {items : List α}
    {group : α → List String}
    {needed : α → List StdPackage}
    (hGroup : ∀ item ∈ items, Uses (group item) (needed item)) :
    Uses (items.flatMap group) (items.flatMap needed) := by
  induction items with
  | nil => exact of_allMention_nil (allMention_nil [])
  | cons item items ih =>
      have hFirst := hGroup item List.mem_cons_self
      have hRest := ih
        (fun other hOther =>
          hGroup other (List.mem_cons_of_mem item hOther))
      exact hFirst.append hRest

end Uses

end RamlScaffold.Go

------------------------------------------------------------
-- Imports
------------------------------------------------------------

namespace RamlScaffold.Go

/- The path that a line of an import block imports. -/
def import? (line : String) : Option String :=
  Text.readAfter "\t\"" (Text.before? "\"\n") line

/- The paths that the import block of a source imports. -/
def imports (lines : List String) : List String :=
  ((lines.dropWhile (· != "import (\n")).takeWhile
    (· != ")\n")).filterMap import?

/- The lines of a source around its import block. -/
def rest (lines : List String) : List String :=
  lines.takeWhile (· != "import (\n") ++
    (lines.dropWhile (· != "import (\n")).dropWhile
      (· != ")\n")

section

variable {stop : String} {lines : List String}
variable (hLines : ∀ line ∈ lines, line ≠ stop)
include hLines

/- Lines are taken up to the first of a kind. -/
theorem takeWhile_append_of_ne (behind : List String) :
    (lines ++ behind).takeWhile (· != stop) =
      lines ++ behind.takeWhile (· != stop) :=
  List.takeWhile_append_of_pos
    (fun line hLine => bne_iff_ne.mpr (hLines line hLine))

theorem dropWhile_append_of_ne (behind : List String) :
    (lines ++ behind).dropWhile (· != stop) =
      behind.dropWhile (· != stop) :=
  List.dropWhile_append_of_pos
    (fun line hLine => bne_iff_ne.mpr (hLines line hLine))

end

section

variable {front block : List String}
variable (hFront : ∀ line ∈ front, line ≠ "import (\n")
include hFront

theorem imports_of_no_block : imports front = [] := by
  have hDropped := dropWhile_append_of_ne hFront []
  rw [List.append_nil] at hDropped
  rw [imports, hDropped]
  rfl

theorem rest_of_no_block : rest front = front := by
  have hDropped := dropWhile_append_of_ne hFront []
  have hTaken := takeWhile_append_of_ne hFront []
  rw [List.append_nil] at hDropped hTaken
  rw [rest, hDropped, hTaken]
  simp

variable (hBlock : ∀ line ∈ block, line ≠ ")\n")
variable (body : List String)
include hBlock

theorem imports_append :
    imports
        (front ++
          ("import (\n" :: block ++ ")\n" :: body)) =
      block.filterMap import? := by
  have hOpened :
      ∀ line ∈ "import (\n" :: block, line ≠ ")\n" := by
    simpa using hBlock
  have hOpening : import? "import (\n" = none := by
    decide
  rw [imports, dropWhile_append_of_ne hFront, List.cons_append,
    List.dropWhile_cons_of_neg (by simp), ← List.cons_append,
    takeWhile_append_of_ne hOpened,
    List.takeWhile_cons_of_neg (by simp), List.append_nil,
    List.filterMap_cons_none hOpening]

theorem rest_append :
    rest
        (front ++
          ("import (\n" :: block ++ ")\n" :: body)) =
      front ++ ")\n" :: body := by
  have hOpened :
      ∀ line ∈ "import (\n" :: block, line ≠ ")\n" := by
    simpa using hBlock
  rw [rest, takeWhile_append_of_ne hFront,
    dropWhile_append_of_ne hFront, List.cons_append,
    List.takeWhile_cons_of_neg (by simp),
    List.dropWhile_cons_of_neg (by simp), ← List.cons_append,
    dropWhile_append_of_ne hOpened,
    List.dropWhile_cons_of_neg (by simp), List.append_nil]

end

/-
  Whether a source uses a package: in a line around its import
  block where the name of the package stands for nothing else.
-/
def StdPackage.IsUsed
    (pkg : StdPackage)
    (lines : List String) : Prop :=
  ∃ line ∈ visible pkg.name (rest lines), pkg.IsUsedIn line

/- A standard package is imported exactly if it is used. -/
def ImportsFollowUsage (lines : List String) : Prop :=
  ∀ pkg : StdPackage,
    pkg.path ∈ imports lines ↔ pkg.IsUsed lines

/-
  A standard package is imported exactly if its qualifier
  occurs around the imports, whatever it stands for.
-/
def ImportsFollowMentions (lines : List String) : Prop :=
  ∀ pkg : StdPackage,
    pkg.path ∈ imports lines ↔
      ∃ line ∈ rest lines, pkg.OccursIn line

section

variable {lines : List String} {packages : List StdPackage}

theorem Uses.used_iff
    (hUses : Uses lines packages)
    (pkg : StdPackage) :
    (∃ line ∈ lines, pkg.IsUsedIn line) ↔ pkg ∈ packages := by
  refine ⟨?_, hUses.used pkg⟩
  rintro ⟨line, hLine, hUsed⟩
  exact hUses.only line hLine pkg hUsed.occursIn

theorem Uses.occurs_iff
    (hUses : Uses lines packages)
    (pkg : StdPackage) :
    (∃ line ∈ lines, pkg.OccursIn line) ↔ pkg ∈ packages := by
  constructor
  · rintro ⟨line, hLine, hOccurs⟩
    exact hUses.only line hLine pkg hOccurs
  · intro hPkg
    rcases hUses.used pkg hPkg with ⟨line, hLine, hUsed⟩
    exact ⟨line, hLine, hUsed.occursIn⟩

/- A source that imports what it uses in one place or another. -/
structure ImportsUsed
    (lines : List String)
    (packages : List StdPackage) : Prop where
  uses : Uses (rest lines) packages
  imported :
    ∀ pkg : StdPackage,
      pkg.path ∈ imports lines ↔ pkg ∈ packages

/-
  An import block is looked at on its own: what is imported is
  read off the block, what is used off the lines around it.
-/
theorem importsUsed_of_block
    {front block body : List String}
    (hFront : ∀ line ∈ front, line ≠ "import (\n")
    (hBlock : ∀ line ∈ block, line ≠ ")\n")
    (hUses : Uses (front ++ ")\n" :: body) packages)
    (hImports :
      ∀ pkg : StdPackage,
        pkg.path ∈ block.filterMap import? ↔ pkg ∈ packages) :
    ImportsUsed
      (front ++ ("import (\n" :: block ++ ")\n" :: body))
      packages := by
  constructor
  · rw [rest_append hFront hBlock]
    exact hUses
  · rw [imports_append hFront hBlock]
    exact hImports

theorem ImportsUsed.followMentions
    (hLines : ImportsUsed lines packages) :
    ImportsFollowMentions lines :=
  fun pkg =>
    (hLines.imported pkg).trans (hLines.uses.occurs_iff pkg).symm

end

end RamlScaffold.Go

------------------------------------------------------------
-- Headers
------------------------------------------------------------

namespace RamlScaffold.Naming

theorem MarkFree.isPiece
    {text : String}
    (hText : MarkFree text) :
    Go.IsPiece text := by
  intro c hc
  rw [Bool.eq_false_iff]
  intro hBreak
  have hMark : c ∈ Alphabet.marks := by
    have hSome : c = '(' ∨ c = ')' ∨ c = ',' := by
      simpa [Go.isBreak] using hBreak
    rcases hSome with rfl | rfl | rfl <;> decide
  exact hText c hMark hc

end RamlScaffold.Naming

namespace RamlScaffold.Go

open Text

/- A line that declares no package's name in a header. -/
def KeepsPackages (line : String) : Prop :=
  ∀ pkg : StdPackage,
    Starts "func " line → ¬ Declares pkg.name line

/- Whether all of some lines keep the names of packages. -/
def AllKeep (lines : List String) : Prop :=
  ∀ line ∈ lines, KeepsPackages line

@[simp] theorem allKeep_nil : AllKeep [] := by
  simp [AllKeep]

@[simp] theorem allKeep_cons
    (line : String)
    (lines : List String) :
    AllKeep (line :: lines) ↔ KeepsPackages line ∧ AllKeep lines := by
  simp [AllKeep]

@[simp] theorem allKeep_append (first second : List String) :
    AllKeep (first ++ second) ↔ AllKeep first ∧ AllKeep second := by
  simp [AllKeep, or_imp, forall_and]

theorem keepsPackages_of_startsDiffer
    {line : String}
    (hStarts : StartsDiffer "func " line) :
    KeepsPackages line :=
  fun _ hHeader => absurd hHeader hStarts.1

theorem keepsPackages_append_of_startsDiffer
    {front : String}
    (hStarts : StartsDiffer "func " front)
    (rest : String) :
    KeepsPackages (front ++ rest) :=
  fun _ hHeader =>
    absurd hHeader (hStarts.not_starts_append rest)

/- A piece that starts with some other word declares that. -/
theorem StdPackage.not_declares_append
    (pkg : StdPackage)
    {front rest : String}
    (hPiece : IsPiece (front ++ rest))
    (hFront : front.toList.head?.any (· != ' ') = true)
    (hStarts :
      ∀ other ∈ all, StartsDiffer (other.name ++ " ") front) :
    ¬ Declares pkg.name (front ++ rest) :=
  not_declares_of_startsDiffer hPiece hFront
    (hStarts pkg pkg.mem_all)

/- The lines around the imports are lines of the source. -/
theorem mem_of_mem_rest
    {line : String}
    {lines : List String}
    (hLine : line ∈ rest lines) :
    line ∈ lines := by
  rcases List.mem_append.mp hLine with hFront | hBody
  · exact (List.takeWhile_sublist _).subset hFront
  · exact
      (List.dropWhile_sublist _).subset
        ((List.dropWhile_sublist _).subset hBody)

/- Where no header declares a name, what is used is used. -/
theorem ImportsUsed.followUsage
    {lines : List String}
    {packages : List StdPackage}
    (hLines : ImportsUsed lines packages)
    (hKept : AllKeep lines) :
    ImportsFollowUsage lines := by
  intro pkg
  have hVisible : visible pkg.name (rest lines) = rest lines :=
    visible_of_undeclared
      (fun line hLine => hKept line (mem_of_mem_rest hLine) pkg)
  rw [hLines.imported pkg, StdPackage.IsUsed, hVisible]
  exact (hLines.uses.used_iff pkg).symm

end RamlScaffold.Go
