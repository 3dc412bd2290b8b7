import ModPack.Proofs.ScriptResolution
import ModPack.Proofs.SheetSlots

/-!
# The layout of words

A word is a row of numbers, each padded to the width of its place. Padding does not shorten: a
number that is too large for its place takes more digits, and everything behind it moves. Indices
and sections always fit, because assembling and loading refuse what does not. The slots of a sheet
are not counted, so the words for animations and palettes keep their layout exactly as long as the
numbers of the slots have two digits. Main statements: `length_row_iff`, `readRow?_row`,
`denotes_iff` and `words_laid_out`.
-/
namespace ModPack

/-! ## Rows of padded numbers -/

namespace Hex

variable {width number : Nat} {widths numbers : List Nat}

/-- Numbers side by side, each padded to its width. -/
def row : List Nat → List Nat → List Char
  | width :: widths, number :: numbers => (padded width number).toList ++ row widths numbers
  | _, _ => []

/-- The numbers that stand in places of fixed widths, with nothing behind them. -/
def readRow? : List Nat → List Char → Option (List Nat)
  | [], [] => some []
  | [], _ :: _ => none
  | width :: widths, text => do
    let number ← value? (text.take width)
    let numbers ← readRow? widths (text.drop width)
    return number :: numbers

/-- A place is wide enough for a number. -/
def Fits (width number : Nat) : Prop :=
  number < 16 ^ width

theorem fits_two : Fits 2 number ↔ number ≤ 0xFF := by
  unfold Fits
  omega

theorem fits_four : Fits 4 number ↔ number ≤ 0xFFFF := by
  unfold Fits
  omega

theorem isUpperDigit_of_mem_row {c : Char} (h : c ∈ row widths numbers) :
    isUpperDigit c = true := by
  fun_induction row widths numbers with
  | case1 width widths number numbers ih =>
    rcases List.mem_append.1 h with h | h
    · exact isUpperDigit_of_mem_padded h
    · exact ih h
  | case2 => cases h

theorem le_length_padded (width number : Nat) : width ≤ (padded width number).toList.length := by
  rw [toList_padded, List.length_append, List.length_replicate]
  omega

theorem length_padded_iff (hwidth : 0 < width) :
    (padded width number).toList.length = width ↔ Fits width number := by
  refine ⟨fun h => ?_, length_padded hwidth⟩
  have hdigits : (Nat.toDigits 16 number).length ≤ width := by
    rw [toList_padded, List.length_append, List.length_replicate, digits, List.length_map] at h
    omega
  exact (Nat.length_toDigits_le_iff (by omega) hwidth).1 hdigits

/-- A row is never shorter than its places. -/
theorem sum_le_length_row (hcount : widths.length = numbers.length) :
    widths.sum ≤ (row widths numbers).length := by
  induction widths generalizing numbers with
  | nil => exact Nat.zero_le _
  | cons width widths ih =>
    cases numbers with
    | nil => cases hcount
    | cons number numbers =>
      rw [row, List.length_append, List.sum_cons]
      exact Nat.add_le_add (le_length_padded width number) (ih (Nat.succ.inj hcount))

/-- What one number takes too much, no other number makes up for. -/
theorem length_row_iff (hwidths : ∀ width ∈ widths, 0 < width)
    (hcount : widths.length = numbers.length) :
    (row widths numbers).length = widths.sum ↔ List.Forall₂ Fits widths numbers := by
  induction widths generalizing numbers with
  | nil =>
    cases List.eq_nil_of_length_eq_zero hcount.symm
    simp [row]
  | cons width widths ih =>
    cases numbers with
    | nil => cases hcount
    | cons number numbers =>
      obtain ⟨hwidth, hwidths⟩ := List.forall_mem_cons.1 hwidths
      have hcount := Nat.succ.inj hcount
      have hfirst := le_length_padded width number
      have hrest := sum_le_length_row hcount
      rw [row, List.length_append, List.sum_cons, List.forall₂_cons, ← ih hwidths hcount,
        ← length_padded_iff hwidth]
      omega

theorem readRow?_row (hwidths : ∀ width ∈ widths, 0 < width)
    (h : List.Forall₂ Fits widths numbers) :
    readRow? widths (row widths numbers) = some numbers := by
  induction h with
  | nil => rfl
  | cons hfits _ ih =>
    obtain ⟨hwidth, hwidths⟩ := List.forall_mem_cons.1 hwidths
    have hlength := length_padded hwidth hfits
    rw [row, readRow?, List.take_left' hlength, List.drop_left' hlength, value?_padded,
      ih hwidths]
    rfl

end Hex

/-! ## The numbers in a word -/

namespace Expression

/-- The widths of the places in the word for an expression. -/
def widths : Expression → List Nat
  | ⟨.text, _⟩ => [4, 4]
  | ⟨.actor, _⟩ | ⟨.sprite, [_]⟩ => [2]
  | ⟨.sprite, _⟩ => [2, 2, 2, 2]

/-- The numbers in the word for an expression: the index of the export, behind the section of a
string, and for a sprite with more arguments a zero, the index, the palette and the animation. -/
inductive Numbers (exports : Exports) (source : String) : Expression → List Nat → Prop
  | sprite {text : String} {id : Identifier} {sprite : Sprite} {index : Nat}
      (refers : exports.sprites.RefersTo source text id sprite)
      (indexed : sprite.state = .assembled index) :
      Numbers exports source ⟨.sprite, [text]⟩ [index]
  | animation {text name : String} {id : Identifier} {sprite : Sprite} {index slot : Nat}
      (refers : exports.sprites.RefersTo source text id sprite)
      (indexed : sprite.state = .assembled index) (animation : sprite.animation? name = some slot) :
      Numbers exports source ⟨.sprite, [text, name]⟩ [0, index, 0, slot]
  | palette {text name colours : String} {id : Identifier} {sprite : Sprite}
      {index slot coloured : Nat} (refers : exports.sprites.RefersTo source text id sprite)
      (indexed : sprite.state = .assembled index) (animation : sprite.animation? name = some slot)
      (palette : sprite.palette? colours = some coloured) :
      Numbers exports source ⟨.sprite, [text, name, colours]⟩ [0, index, coloured, slot]
  | text {text : String} {id : Identifier} {string : NamedString} {index : Nat}
      (refers : exports.strings.RefersTo source text id string)
      (indexed : string.state = .assembled index) :
      Numbers exports source ⟨.text, [text]⟩ [string.bank, index]
  | actor {text : String} {id : Identifier} {actor : Actor} {index : Nat}
      (refers : exports.actors.RefersTo source text id actor)
      (indexed : actor.state = .assembled index) :
      Numbers exports source ⟨.actor, [text]⟩ [index]

end Expression

/-- All exports have indices within the limits that a build has for them. -/
structure Exports.InRange (exports : Exports) : Prop where
  sprites : exports.sprites.All fun _ sprite =>
    ∃ index : Nat, sprite.state = .assembled index ∧ index ≤ Assembly.lastSprite
  actors : exports.actors.All fun _ actor =>
    ∃ index : Nat, actor.state = .assembled index ∧ index ≤ Assembly.lastActor
  strings : exports.strings.All fun _ string => string.bank ≤ LoadError.maxSection ∧
    ∃ index : Nat, string.state = .assembled index ∧ index ≤ Assembly.lastString

namespace Exports.InRange

variable {exports : Exports} {id : Identifier} {index : Nat}

theorem le_of_assembled {state : AssemblyState} {limit : Nat}
    (hlimit : ∃ index : Nat, state = .assembled index ∧ index ≤ limit)
    (hindex : state = .assembled index) : index ≤ limit := by
  obtain ⟨_, hstate, hle⟩ := hlimit
  rw [hindex] at hstate
  cases hstate
  exact hle

theorem sprite_le (h : exports.InRange) {sprite : Sprite}
    (hget : exports.sprites.get? id = some sprite) (hindex : sprite.state = .assembled index) :
    index ≤ 0xFF :=
  le_of_assembled (h.sprites.of_get? hget) hindex

theorem actor_le (h : exports.InRange) {actor : Actor}
    (hget : exports.actors.get? id = some actor) (hindex : actor.state = .assembled index) :
    index ≤ 0xFF :=
  le_of_assembled (h.actors.of_get? hget) hindex

theorem string_le (h : exports.InRange) {string : NamedString}
    (hget : exports.strings.get? id = some string) (hindex : string.state = .assembled index) :
    string.bank ≤ 0xFE ∧ index ≤ 0xFFFF :=
  ⟨(h.strings.of_get? hget).1, le_of_assembled (h.strings.of_get? hget).2 hindex⟩

end Exports.InRange

namespace Expression

variable {exports : Exports} {source word : String} {expression : Expression}
  {numbers : List Nat}

theorem widths_pos (expression : Expression) : ∀ width ∈ expression.widths, 0 < width := by
  unfold widths
  split <;> decide

theorem Numbers.length_eq (h : expression.Numbers exports source numbers) :
    expression.widths.length = numbers.length := by
  cases h <;> rfl

/-- The word for an expression is the row of its numbers. -/
theorem Numbers.denotes (h : expression.Numbers exports source numbers) :
    expression.Denotes exports source (.ofList (Hex.row expression.widths numbers)) := by
  have hzero : (Hex.padded 2 0).toList = ['0', '0'] := by decide
  have hrow {word : String} (hdenotes : expression.Denotes exports source word)
      (hword : Hex.row expression.widths numbers = word.toList) :
      expression.Denotes exports source (.ofList (Hex.row expression.widths numbers)) := by
    rwa [hword, String.ofList_toList]
  cases h with
  | sprite refers indexed => exact hrow (.sprite refers indexed) (by simp [widths, Hex.row])
  | animation refers indexed animation =>
    exact hrow (.animation refers indexed animation) (by simp [widths, Hex.row, hzero])
  | palette refers indexed animation palette =>
    exact hrow (.palette refers indexed animation palette) (by simp [widths, Hex.row, hzero])
  | text refers indexed => exact hrow (.text refers indexed) (by simp [widths, Hex.row])
  | actor refers indexed => exact hrow (.actor refers indexed) (by simp [widths, Hex.row])

/-- Every number but those of slots has a place that is wide enough. -/
theorem Numbers.fits_iff (hrange : exports.InRange)
    (h : expression.Numbers exports source numbers) :
    List.Forall₂ Hex.Fits expression.widths numbers ↔ ∀ slot ∈ numbers.drop 2, slot ≤ 0xFF := by
  cases h with
  | sprite refers indexed =>
    simp [widths, Hex.fits_two, hrange.sprite_le refers.held indexed]
  | animation refers indexed animation =>
    simp [widths, Hex.fits_two, hrange.sprite_le refers.held indexed]
  | palette refers indexed animation palette =>
    simp [widths, Hex.fits_two, hrange.sprite_le refers.held indexed]
  | @text _ _ string _ refers indexed =>
    obtain ⟨hbank, hindex⟩ := hrange.string_le refers.held indexed
    have hbank : string.bank ≤ 0xFFFF := Nat.le_trans hbank (by decide)
    simp [widths, Hex.fits_four, hbank, hindex]
  | actor refers indexed =>
    simp [widths, Hex.fits_two, hrange.actor_le refers.held indexed]

/-- A word is a row of numbers once indices are in their ranges, so that none is negative. -/
theorem denotes_iff (hrange : exports.InRange) : expression.Denotes exports source word ↔
    ∃ numbers, expression.Numbers exports source numbers ∧
      Hex.row expression.widths numbers = word.toList := by
  constructor
  · intro h
    -- The expression stands for one word only, and its numbers stand for that of their row.
    have hnumbers : ∃ numbers, expression.Numbers exports source numbers := by
      cases h with
      | sprite refers indexed =>
        obtain ⟨_, hstate, _⟩ := hrange.sprites.of_get? refers.held
        exact ⟨_, .sprite refers hstate⟩
      | animation refers indexed animation =>
        obtain ⟨_, hstate, _⟩ := hrange.sprites.of_get? refers.held
        exact ⟨_, .animation refers hstate animation⟩
      | palette refers indexed animation palette =>
        obtain ⟨_, hstate, _⟩ := hrange.sprites.of_get? refers.held
        exact ⟨_, .palette refers hstate animation palette⟩
      | text refers indexed =>
        obtain ⟨_, _, hstate, _⟩ := hrange.strings.of_get? refers.held
        exact ⟨_, .text refers hstate⟩
      | actor refers indexed =>
        obtain ⟨_, hstate, _⟩ := hrange.actors.of_get? refers.held
        exact ⟨_, .actor refers hstate⟩
    obtain ⟨numbers, hnumbers⟩ := hnumbers
    refine ⟨numbers, hnumbers, ?_⟩
    have hvalue := Resolution.value_word_iff.2 h
    rw [Resolution.value_word_iff.2 hnumbers.denotes] at hvalue
    rw [← Option.some.inj (Except.ok.inj hvalue), String.toList_ofList]
  · rintro ⟨numbers, hnumbers, hrow⟩
    have hdenotes := hnumbers.denotes
    rwa [hrow, String.ofList_toList] at hdenotes

end Expression

namespace Assembly

variable {α : Type} [Export α] {id : Identifier} {exports : Exports} {dir : Path}
  {built : Site Exports}

theorem exists_of_mem_numbered {first : Nat} {entries : List (Identifier × α)} {item : α}
    (h : (id, item) ∈ numbered first entries) :
    ∃ place before, place < entries.length ∧ (id, before) ∈ entries ∧
      item = Export.withState (.assembled (first + place : Nat)) before := by
  obtain ⟨place, hplace⟩ := List.mem_iff_getElem?.1 h
  rw [getElem?_numbered] at hplace
  obtain ⟨⟨key, before⟩, hbefore, heq⟩ := Option.map_eq_some_iff.1 hplace
  cases heq
  exact ⟨place, before, (List.getElem?_eq_some_iff.1 hbefore).1, List.mem_of_getElem? hbefore, rfl⟩

/-- The limits of a build. -/
theorem Finished.inRange (h : Finished exports dir built) (hnamed : exports.WellNamed) :
    built.held.InRange where
  sprites := by
    intro id sprite hmem
    rw [h.sprites] at hmem
    obtain ⟨place, before, hlt, _, rfl⟩ := exists_of_mem_numbered hmem
    have hcount : exports.sprites.entries.length ≤ 0xFF := h.sprites_le
    exact ⟨_, rfl, show 1 + place ≤ 0xFF by omega⟩
  actors := by
    intro id actor hmem
    rw [h.actors] at hmem
    obtain ⟨place, before, hlt, _, rfl⟩ := exists_of_mem_numbered hmem
    have hcount : exports.actors.entries.length ≤ 0xFF + 1 := h.actors_le
    exact ⟨_, rfl, show 0 + place ≤ 0xFF by omega⟩
  strings := by
    intro id string hmem
    rw [h.strings] at hmem
    obtain ⟨before, hbefore, heq, _⟩ := of_mem_sectioned hmem
    have hbank : string.bank = before.bank := by rw [heq]
    have hstate : string.state = .assembled string.number := congrArg NamedString.state heq
    exact ⟨hbank ▸ (hnamed.strings id before hbefore).section_le, string.number, hstate,
      h.numbers_le _ hmem⟩

/-- A build leaves the lists of slots as they are. -/
theorem Finished.exists_sprite (h : Finished exports dir built) {sprite : Sprite}
    (hget : built.held.sprites.get? id = some sprite) :
    ∃ before, (id, before) ∈ exports.sprites.entries ∧
      sprite.palettes = before.palettes ∧ sprite.animations = before.animations := by
  obtain ⟨place, hplace⟩ := Registry.exists_getElem?_of_get? hget
  have hmem := List.mem_of_getElem? hplace
  rw [h.sprites] at hmem
  obtain ⟨_, before, _, hbefore, rfl⟩ := exists_of_mem_numbered hmem
  exact ⟨before, hbefore, rfl, rfl⟩

end Assembly

theorem Sprite.lt_of_slot? {names : List String} {name : String} {slot : Nat}
    (h : slot? names name = some slot) : slot < names.length :=
  (List.getElem?_eq_some_iff.1 (getElem?_of_slot? h)).1

/-- No slot has a larger number than the sheets of a package have slots. -/
theorem Assembly.Finished.slot_lt {exports : Exports} {dir : Path} {built : Site Exports}
    (h : Finished exports dir built) {limit : Nat}
    (hsheets : ∀ entry ∈ exports.sprites.entries,
      entry.2.palettes.length ≤ limit ∧ entry.2.animations.length ≤ limit)
    {source : String} {expression : Expression} {numbers : List Nat}
    (hnumbers : expression.Numbers built.held source numbers) :
    ∀ slot ∈ numbers.drop 2, slot < limit := by
  have hslot {id : Identifier} {sprite : Sprite} (hget : built.held.sprites.get? id = some sprite) :
      sprite.palettes.length ≤ limit ∧ sprite.animations.length ≤ limit := by
    obtain ⟨before, hbefore, hpalettes, hanimations⟩ := h.exists_sprite hget
    rw [hpalettes, hanimations]
    exact hsheets _ hbefore
  cases hnumbers with
  | sprite => simp
  | animation refers _ animation =>
    have hlt := Nat.lt_of_lt_of_le (Sprite.lt_of_slot? animation) (hslot refers.held).2
    simp [hlt, Nat.zero_lt_of_lt hlt]
  | palette refers _ animation palette =>
    simp [Nat.lt_of_lt_of_le (Sprite.lt_of_slot? animation) (hslot refers.held).2,
      Nat.lt_of_lt_of_le (Sprite.lt_of_slot? palette) (hslot refers.held).1]
  | text => simp
  | actor => simp

/-- In a finished build every expression with a word has numbers, and the word is their row: upper
case digits, as many as the places have while each slot has two of them. Then the numbers are read
back from their places, and other numbers in the same places make another word. Expressions without
slots always have such words, and others have when no sprite has more slots than two digits can
number. -/
theorem Package.words_laid_out {settings : Settings} {source disk : Disk} {place dir : Path}
    {package : Package} {built : Site Exports}
    (hload : (Package.load settings source place).result = .ok package) (hrooted : disk.Rooted)
    (h : package.assemble disk dir = (.ok (), built)) :
    (∀ reader (expression : Expression) word,
      (Resolution.value built.held reader expression).result = .ok (some word) ↔
        ∃ numbers, expression.Numbers built.held reader numbers ∧
          Hex.row expression.widths numbers = word.toList) ∧
    (∀ reader (expression : Expression) numbers, expression.Numbers built.held reader numbers →
      (∀ c ∈ Hex.row expression.widths numbers, Hex.isUpperDigit c = true) ∧
      ((Hex.row expression.widths numbers).length = expression.widths.sum ↔
        ∀ slot ∈ numbers.drop 2, slot ≤ 0xFF) ∧
      ((∀ slot ∈ numbers.drop 2, slot ≤ 0xFF) →
        Hex.readRow? expression.widths (Hex.row expression.widths numbers) = some numbers ∧
        ∀ reader (other : Expression) others, other.Numbers built.held reader others →
          other.widths = expression.widths → (∀ slot ∈ others.drop 2, slot ≤ 0xFF) →
            Hex.row other.widths others = Hex.row expression.widths numbers →
              others = numbers)) ∧
    ((∀ entry ∈ package.exports.sprites.entries,
        entry.2.palettes.length ≤ 0x100 ∧ entry.2.animations.length ≤ 0x100) →
      ∀ reader expression word,
        (Resolution.value built.held reader expression).result = .ok (some word) →
          word.length = expression.widths.sum) := by
  obtain ⟨hfinished, hnamed⟩ := Package.finished_of_assemble hload hrooted h
  have hrange := hfinished.inRange hnamed
  have hword (reader : String) (expression : Expression) (word : String) :
      (Resolution.value built.held reader expression).result = .ok (some word) ↔
        ∃ numbers, expression.Numbers built.held reader numbers ∧
          Hex.row expression.widths numbers = word.toList :=
    Resolution.value_word_iff.trans (Expression.denotes_iff hrange)
  have hlength {reader : String} {expression : Expression} {numbers : List Nat}
      (hnumbers : expression.Numbers built.held reader numbers) :
      (Hex.row expression.widths numbers).length = expression.widths.sum ↔
        ∀ slot ∈ numbers.drop 2, slot ≤ 0xFF :=
    (Hex.length_row_iff expression.widths_pos hnumbers.length_eq).trans (hnumbers.fits_iff hrange)
  have hread {reader : String} {expression : Expression} {numbers : List Nat}
      (hnumbers : expression.Numbers built.held reader numbers)
      (hslots : ∀ slot ∈ numbers.drop 2, slot ≤ 0xFF) :
      Hex.readRow? expression.widths (Hex.row expression.widths numbers) = some numbers :=
    Hex.readRow?_row expression.widths_pos ((hnumbers.fits_iff hrange).2 hslots)
  refine ⟨hword, fun reader expression numbers hnumbers => ⟨fun _ => Hex.isUpperDigit_of_mem_row,
    hlength hnumbers, fun hslots => ⟨hread hnumbers hslots, ?_⟩⟩, ?_⟩
  · intro reader other others hothers hwidths hslots' hrow
    have hfirst := hread hothers hslots'
    rw [hrow, hwidths, hread hnumbers hslots] at hfirst
    exact (Option.some.inj hfirst).symm
  · intro hsheets reader expression word hvalue
    obtain ⟨numbers, hnumbers, hrow⟩ := (hword reader expression word).1 hvalue
    rw [← String.length_toList, ← hrow, hlength hnumbers]
    exact fun slot hslot => Nat.le_of_lt_succ (hfinished.slot_lt hsheets hnumbers slot hslot)

/-! ## Sheets with few slots and with many -/

namespace Sample

open Markup (Token)

variable {slots slot : Nat} {script : String}

theorem rooted_cinema (slots : Nat) (script : String) : (cinema slots script).Rooted where
  tree := by
    have hentries : ∀ entry ∈ (cinema slots script).tree.entries,
        (cinema slots script).tree.isDirectory entry.1.tail = true := by
      simp only [cinema, stage, List.cons_append, List.nil_append, List.forall_mem_cons,
        List.not_mem_nil, false_implies, implies_true, and_true]
      and_intros <;> rfl
    exact FileTree.rooted_of_entries hentries
  workingDirectory := rfl

/-- The numbers for an animation of the sprite in a build of the package. -/
theorem numbers_cinema {built : Site Exports}
    (hload : (Package.load {} (cinema slots script) stagePath).result = .ok (cinemaPackage slots))
    (h : (cinemaPackage slots).assemble (cinema slots script) stageBuild = (.ok (), built))
    {name : String} (hslot : (frame slots).animation? name = some slot) :
    Expression.Numbers built.held "stage" ⟨.sprite, ["frame", name]⟩ [0, 1, 0, slot] := by
  have hfinished := (Package.finished_of_assemble hload (rooted_cinema slots script) h).1
  have hentries : built.held.sprites.entries =
      [(⟨"stage", "frame"⟩, { frame slots with state := .assembled 1 })] := hfinished.sprites
  have hget : built.held.sprites.get? ⟨"stage", "frame"⟩ =
      some { frame slots with state := .assembled 1 } := by
    rw [Registry.get?, hentries]
    rfl
  exact .animation ⟨ok_of_toOption (by decide +kernel), hget⟩ rfl hslot

/-- A script that asks for an animation by the number of its slot. -/
def asking (slot : Nat) : String :=
  "\x7bSprite:frame:" ++ Hex.text slot ++ "\x7d\n"

/-- The build of the package when its script asks for the last animation. -/
def projected (slots : Nat) : Site Exports :=
  ((cinemaPackage slots).assemble (cinema slots (asking (slots - 1))) stageBuild).2

theorem assemble_cinema (slots : Nat)
    (h : ((cinemaPackage slots).assemble (cinema slots (asking (slots - 1)))
      stageBuild).1.toOption = some ()) :
    (cinemaPackage slots).assemble (cinema slots (asking (slots - 1))) stageBuild =
      (.ok (), projected slots) :=
  eq_of_toOption h

theorem load_cinema_two :
    (Package.load {} (cinema 2 (asking 1)) stagePath).result = .ok (cinemaPackage 2) :=
  load_cinema (by rw [toList_reelText]; decide +kernel) (by decide +kernel)

theorem load_cinema_many :
    (Package.load {} (cinema 257 (asking 256)) stagePath).result = .ok (cinemaPackage 257) :=
  load_cinema (by rw [toList_reelText]; decide +kernel) (by decide +kernel)

/-- The script of a build, in the directory of the package. -/
def projectedScript : Location :=
  ["00_goomba.bpat", "actor", "import", "formation", "battle", ".build", "stage"]

/-- Assembling with 257 animations goes well, and leaves this of the script. -/
theorem assembled_many :
    ((cinemaPackage 257).assemble (cinema 257 (asking 256)) stageBuild).1.toOption = some () ∧
      ((cinemaPackage 257).assemble (cinema 257 (asking 256)) stageBuild).2.disk.tree.get?
        projectedScript = some (.file (Utf8.encode "000100100\n\n")) := by
  decide +kernel

end Sample

/-- The word for an animation in the build of a sheet with two of them. -/
theorem Package.words_laid_out_cinema :
    (Package.load {} (Sample.cinema 2 (Sample.asking 1)) Sample.stagePath).result =
        .ok (Sample.cinemaPackage 2) ∧
      (Sample.cinema 2 (Sample.asking 1)).Rooted ∧
      (Sample.cinemaPackage 2).assemble (Sample.cinema 2 (Sample.asking 1)) Sample.stageBuild =
        (.ok (), Sample.projected 2) ∧
      (Resolution.value (Sample.projected 2).held "stage" ⟨.sprite, ["frame", "1"]⟩).result =
        .ok (some "00010001") ∧
      Hex.readRow? [2, 2, 2, 2] "00010001".toList = some [0, 1, 0, 1] ∧
      "00010001".length = [2, 2, 2, 2].sum := by
  have hassemble := Sample.assemble_cinema 2 (by decide +kernel)
  have hnumbers : Expression.Numbers (Sample.projected 2).held "stage"
      ⟨.sprite, ["frame", "1"]⟩ [0, 1, 0, 1] :=
    Sample.numbers_cinema Sample.load_cinema_two hassemble (by decide)
  obtain ⟨hword, hnumbered, hlength⟩ :=
    Package.words_laid_out Sample.load_cinema_two (Sample.rooted_cinema 2 _) hassemble
  have hvalue := (hword "stage" _ "00010001").2 ⟨_, hnumbers, by decide⟩
  have hrow := ((hnumbered _ _ _ hnumbers).2.2 (by decide)).1
  exact ⟨Sample.load_cinema_two, Sample.rooted_cinema 2 _, hassemble, hvalue, hrow,
    hlength (by decide +kernel) _ _ _ hvalue⟩

/-- With one slot more than two digits can number, the word for the last one has nine digits, and
its places tell other numbers. -/
theorem Package.words_outgrow :
    (Package.load {} (Sample.cinema 257 (Sample.asking 256)) Sample.stagePath).result =
        .ok (Sample.cinemaPackage 257) ∧
      (Sample.cinemaPackage 257).assemble (Sample.cinema 257 (Sample.asking 256))
        Sample.stageBuild = (.ok (), Sample.projected 257) ∧
      Expression.Numbers (Sample.projected 257).held "stage" ⟨.sprite, ["frame", "100"]⟩
        [0, 1, 0, 0x100] ∧
      (Resolution.value (Sample.projected 257).held "stage" ⟨.sprite, ["frame", "100"]⟩).result =
        .ok (some "000100100") ∧
      (Sample.projected 257).disk.tree.get? Sample.projectedScript =
        some (.file (Utf8.encode "000100100\n\n")) ∧
      "000100100".length ≠ 8 ∧
      Hex.readRow? [2, 2, 2, 2] ("000100100".toList.take 8) = some [0, 1, 0, 0x10] := by
  have hassemble := Sample.assemble_cinema 257 Sample.assembled_many.1
  have hnumbers : Expression.Numbers (Sample.projected 257).held "stage"
      ⟨.sprite, ["frame", "100"]⟩ [0, 1, 0, 0x100] :=
    Sample.numbers_cinema Sample.load_cinema_many hassemble (by decide +kernel)
  have hvalue := Resolution.value_word_iff.2 hnumbers.denotes
  exact ⟨Sample.load_cinema_many, hassemble, hnumbers, hvalue, Sample.assembled_many.2, by decide,
    by decide⟩

end ModPack
