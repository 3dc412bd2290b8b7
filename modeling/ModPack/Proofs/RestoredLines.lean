import ModPack.Proofs.StringsFiles
import ModPack.Proofs.TableLines

/-!
# Lines restored from strings

A string tells the lines that it was read from: its header is made of the section and the name, and
its text is cut at line ends. What stood behind the closing parenthesis of the header has no part in
the string, and so it is all of a strings file that is lost. Main statements: `lines_of_runs`,
`Defines.shows` and `NamedString.restored_of_load`.
-/
namespace ModPack

/-! ## Sections in upper case -/

namespace Hex

variable {high low : Nat}

theorem padded_two (hhigh : high < 16) (hlow : low < 16) :
    (padded 2 ((16 * high + low : Nat) : Int)).toList =
      [high.digitChar.toUpper, low.digitChar.toUpper] := by
  have hall : ∀ high < 16, ∀ low < 16, (padded 2 ((16 * high + low : Nat) : Int)).toList =
      [high.digitChar.toUpper, low.digitChar.toUpper] := by decide +kernel
  exact hall high hhigh low hlow

end Hex

theorem Block.Digits.toUpper_eq {bank : String} {number : Nat} (h : Digits bank number) :
    bank.toUpper = Hex.padded 2 number := by
  obtain ⟨first, second, high, low, hchars, hfirst, hsecond, rfl⟩ := h
  obtain ⟨hhigh, hfirst⟩ := Hex.toUpper_eq_digitChar hfirst
  obtain ⟨hlow, hsecond⟩ := Hex.toUpper_eq_digitChar hsecond
  rw [← String.toList_inj, Hex.padded_two hhigh hlow, ← hfirst, ← hsecond]
  simp [String.toUpper, hchars]

/-! ## All lines are in runs -/

namespace Script

theorem flatten_splitOnP {α : Type} (p : α → Bool) (items : List α) :
    (items.splitOnP p).flatten = items.filter (!p ·) := by
  induction items with
  | nil => rw [List.splitOnP_nil]; rfl
  | cons item items ih =>
    rw [List.splitOnP_cons_eq_if_modifyHead]
    split
    · next hitem => simp [hitem, ih]
    · next hitem =>
      obtain ⟨front, rest, hsplit⟩ := List.exists_cons_of_ne_nil (List.splitOnP_ne_nil p items)
      rw [hsplit] at ih ⊢
      simp [hitem, ← ih]

theorem flatMap_headed? (groups : List (List Line)) :
    (groups.filterMap headed?).flatMap (fun run => run.1 :: run.2) = groups.flatten := by
  induction groups with
  | nil => rfl
  | cons group groups ih =>
    cases group with
    | nil => rw [List.filterMap_cons_none rfl, ih, List.flatten_cons, List.nil_append]
    | cons header rest =>
      have hheaded : headed? (header :: rest) = some (header, rest) := rfl
      rw [List.filterMap_cons_some hheaded, List.flatMap_cons, ih, List.flatten_cons]

/-- The runs hold all lines that are not blank, in order. -/
theorem lines_of_runs (lines : List Line) :
    (runs lines).flatMap (fun run => run.1 :: run.2) = lines.filter (·.text ≠ "") := by
  rw [runs, flatMap_headed?, flatten_splitOnP]
  exact List.filter_congr fun line _ => by simp

/-- The texts of the lines that a source has besides comments and blanks. -/
def kept (source : String) : List String :=
  ((trimmedLines source).filter (·.text ≠ "")).map (·.text)

/-- The texts of a run. -/
def runTexts (run : Line × List Line) : List String :=
  run.1.text :: run.2.map (·.text)

theorem flatten_runTexts (source : String) :
    ((runs (trimmedLines source)).map runTexts).flatten = kept source := by
  rw [kept, ← lines_of_runs, List.map_flatMap, ← List.flatMap_def]
  rfl

theorem settled_of_mem_runs {source : String} {run : Line × List Line} {line : Line}
    (hrun : run ∈ runs (trimmedLines source)) (hline : line ∈ run.1 :: run.2) :
    ModPack.Settled line.text.toList := by
  have hmem : line ∈ (trimmedLines source).filter (·.text ≠ "") := by
    rw [← lines_of_runs]
    exact List.mem_flatMap.2 ⟨run, hrun, hline⟩
  obtain ⟨hmem, hne⟩ := List.mem_filter.1 hmem
  exact .of_trimmedLines hmem (of_decide_eq_true hne)

end Script

namespace NamedString

variable {path : Path} {run : Line × List Line} {string : NamedString} {strings : List NamedString}
  {source rest : String} {lines : List String} {disk : Disk} {package : String}

/-- The lines of the text of a string; there is none in an empty one. -/
def textLines (string : NamedString) : List String :=
  if string.text = "" then [] else Text.splitAt '\n' string.text

theorem exists_readText_of_load (h : (load disk package path).result = .ok strings) :
    ∃ source, Script.readText disk path = .ok source := by
  obtain ⟨script, hscript, _⟩ := Report.result_bind_ok.1 h
  obtain ⟨source, hread, _⟩ := Report.result_bind_ok.1 hscript
  exact ⟨source, Report.result_mapError_ok.1 hread⟩

/-- The lines that a string is written with, and something behind the closing parenthesis of its
header. The digits of the section are of either case. -/
def Shows (rest : String) (string : NamedString) (lines : List String) : Prop :=
  ∃ bank, bank.toUpper = Hex.padded 2 string.bank ∧
    lines = ("#string:" ++ bank ++ ":(" ++ string.name ++ ")" ++ rest) :: string.textLines

theorem Shows.length_eq (h : Shows rest string lines) :
    lines.length = string.textLines.length + 1 := by
  obtain ⟨_, _, rfl⟩ := h
  rfl

/-- Cutting the text of a string gives the lines behind its header. -/
theorem Defines.textLines_eq (h : Defines path run string)
    (hrun : ∀ line ∈ run.2, Settled line.text.toList) :
    string.textLines = run.2.map (·.text) := by
  have hlines : ∀ text ∈ run.2.map (·.text), text ≠ "" ∧ '\n' ∉ text.toList := by
    intro text htext
    obtain ⟨line, hline, rfl⟩ := List.mem_map.1 htext
    refine ⟨mt String.toList_eq_nil_iff.2 (hrun line hline).ne_nil, fun hend => ?_⟩
    exact ((hrun line hline).ne_of_mem hend).2.2 rfl
  have hend : "\n" = String.singleton '\n' := rfl
  rw [textLines, h.text, hend]
  generalize run.2.map (·.text) = texts at hlines
  cases texts with
  | nil => simp
  | cons first more =>
    have hcut := Text.splitAt_intercalate (List.cons_ne_nil first more) fun text htext =>
      (hlines text htext).2
    rw [if_neg, hcut]
    intro hempty
    rw [hempty] at hcut
    have hfirst : first = "" := (List.cons.inj hcut).1.symm
    exact (hlines first List.mem_cons_self).1 hfirst

/-- A string shows the run that defines it, but for what is behind the name. -/
theorem Defines.shows (h : Defines path run string)
    (hrun : ∀ line ∈ run.2, Settled line.text.toList) :
    ∃ rest, ')' ∉ rest.toList ∧ Shows rest string (Script.runTexts run) := by
  obtain ⟨bank, rest, hparts, hdigits⟩ := h.header
  refine ⟨rest, hparts.parenthesis, bank, hdigits.toUpper_eq, ?_⟩
  rw [Script.runTexts, hparts.text_eq, h.textLines_eq hrun]

/-- Nothing is lost of a run exactly when its header ends with a parenthesis. -/
theorem Defines.shows_iff (h : Defines path run string)
    (hrun : ∀ line ∈ run.2, Settled line.text.toList) :
    Shows "" string (Script.runTexts run) ↔ run.1.text.toList.getLast? = some ')' := by
  obtain ⟨bank, rest, hparts, hdigits⟩ := h.header
  constructor
  · rintro ⟨written, _, hshows⟩
    have hclosing : ")".toList = [')'] := by decide
    rw [(List.cons.inj hshows).1, String.append_empty, String.toList_append, hclosing,
      List.getLast?_concat]
  · intro hlast
    obtain rfl := hparts.getLast?_eq_iff.1 hlast
    refine ⟨bank, hdigits.toUpper_eq, ?_⟩
    rw [Script.runTexts, hparts.text_eq, h.textLines_eq hrun]

/-- The lines are those of the strings, one group for each, with nothing behind a name. -/
def Restores (strings : List NamedString) (lines : List String) : Prop :=
  ∃ groups, List.Forall₂ (Shows "") strings groups ∧ groups.flatten = lines

/-- The lines of a string are as many whatever is behind its name, so they are the first ones. -/
theorem restores_cons {front : List String} (hfront : Shows rest string front) :
    Restores (string :: strings) (front ++ lines) ↔
      Shows "" string front ∧ Restores strings lines := by
  constructor
  · rintro ⟨_, hgroups, hflatten⟩
    obtain ⟨group, groups, hgroup, hrest, rfl⟩ := List.forall₂_cons_left_iff.1 hgroups
    have hlength : group.length = front.length := hgroup.length_eq.trans hfront.length_eq.symm
    obtain ⟨rfl, rfl⟩ := List.append_inj hflatten hlength
    exact ⟨hgroup, groups, hrest, rfl⟩
  · rintro ⟨hgroup, groups, hgroups, rfl⟩
    exact ⟨front :: groups, .cons hgroup hgroups, rfl⟩

theorem restores_iff {runs : List (Line × List Line)}
    (h : List.Forall₂ (fun run string => (∀ line ∈ run.2, Settled line.text.toList) ∧
      Defines path run string) runs strings) :
    Restores strings (runs.map Script.runTexts).flatten ↔
      ∀ run ∈ runs, run.1.text.toList.getLast? = some ')' := by
  induction h with
  | nil => simp [Restores]
  | cons hfirst _ ih =>
    obtain ⟨hrun, hdefines⟩ := hfirst
    obtain ⟨rest, _, hshows⟩ := hdefines.shows hrun
    rw [List.map_cons, List.flatten_cons, restores_cons hshows, hdefines.shows_iff hrun, ih,
      List.forall_mem_cons]

section Accepted

variable (hread : Script.readText disk path = .ok source)
  (h : (load disk package path).result = .ok strings)
include hread h

theorem defines_of_load :
    List.Forall₂ (fun run string => (∀ line ∈ run.2, Settled line.text.toList) ∧
      Defines path run string) (Script.runs (Script.trimmedLines source)) strings := by
  refine (List.forall₂_and_left _ _).2 ⟨fun run hrun line hline => ?_, (load_ok hread).1 h⟩
  exact Script.settled_of_mem_runs hrun (List.mem_cons_of_mem _ hline)

theorem restores_of_load :
    Restores strings (Script.kept source) ↔
      ∀ run ∈ Script.runs (Script.trimmedLines source),
        run.1.text.toList.getLast? = some ')' := by
  rw [← Script.flatten_runTexts]
  exact restores_iff (defines_of_load hread h)

end Accepted

/-- The lines of an accepted file are those of its strings, in order, but for what stands behind the
names in its headers; so they can be restored from the strings exactly when each header ends with a
parenthesis. -/
theorem restored_of_load (disk : Disk) (package : String) (path : Path)
    (strings : List NamedString) (h : (load disk package path).result = .ok strings) :
    ∃ source, Script.readText disk path = .ok source ∧
      (∃ groups, List.Forall₂
          (fun string group => ∃ rest, ')' ∉ rest.toList ∧ Shows rest string group)
          strings groups ∧ groups.flatten = Script.kept source) ∧
      (Restores strings (Script.kept source) ↔
        ∀ run ∈ Script.runs (Script.trimmedLines source),
          run.1.text.toList.getLast? = some ')') := by
  obtain ⟨source, hread⟩ := exists_readText_of_load h
  refine ⟨source, hread, ⟨_, ?_, Script.flatten_runTexts source⟩, restores_of_load hread h⟩
  rw [List.forall₂_map_right_iff]
  exact ((defines_of_load hread h).imp fun run string hrun => hrun.2.shows hrun.1).flip

end NamedString

namespace Sample

def scribblePath : Path :=
  ⟨.root, ["lines.str"]⟩

/-- The text of the string begins on the line of its header. -/
def scribble : String :=
  "#string:01:(greeting) Hello!\nHow are you?\n"

def scribbleDisk : Disk :=
  (Disk.outcome (Disk.writeText scribblePath scribble) {}).2

def scribbled : NamedString where
  bank := 1
  name := "greeting"
  text := "How are you?"
  path := some scribblePath

theorem scribble_evaluates :
    Script.readText scribbleDisk scribblePath = .ok scribble ∧
      (NamedString.load scribbleDisk "game" scribblePath).result = .ok [scribbled] ∧
      Script.kept scribble = ["#string:01:(greeting) Hello!", "How are you?"] := by
  decide +kernel

theorem readText_scribble : Script.readText scribbleDisk scribblePath = .ok scribble :=
  scribble_evaluates.1

theorem load_scribble :
    (NamedString.load scribbleDisk "game" scribblePath).result = .ok [scribbled] :=
  scribble_evaluates.2.1

end Sample

namespace NamedString

theorem restored_of_load_scribble :
    (load Sample.scribbleDisk "game" Sample.scribblePath).result = .ok [Sample.scribbled] ∧
      ∃ rest, Shows rest Sample.scribbled ["#string:01:(greeting) Hello!", "How are you?"] := by
  refine ⟨Sample.load_scribble, ?_⟩
  obtain ⟨source, hread, ⟨groups, hgroups, hflatten⟩, _⟩ :=
    restored_of_load Sample.scribbleDisk "game" Sample.scribblePath _ Sample.load_scribble
  cases Sample.readText_scribble.symm.trans hread
  have hkept : Script.kept Sample.scribble = ["#string:01:(greeting) Hello!", "How are you?"] :=
    Sample.scribble_evaluates.2.2
  obtain ⟨group, _, ⟨rest, _, hshows⟩, hnil, rfl⟩ := List.forall₂_cons_left_iff.1 hgroups
  cases hnil
  refine ⟨rest, ?_⟩
  rw [← hkept, ← hflatten]
  simpa using hshows

/-- The lines of a file that is accepted need not be those of its strings: what stands behind the
name in a header is in none of them. -/
theorem not_restores_scribble :
    Script.readText Sample.scribbleDisk Sample.scribblePath = .ok Sample.scribble ∧
      ∃ strings, (load Sample.scribbleDisk "game" Sample.scribblePath).result = .ok strings ∧
        ¬ Restores strings (Script.kept Sample.scribble) := by
  refine ⟨Sample.readText_scribble, _, Sample.load_scribble, ?_⟩
  rw [restores_of_load Sample.readText_scribble Sample.load_scribble]
  decide +kernel

end NamedString

end ModPack
