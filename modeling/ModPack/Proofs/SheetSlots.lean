import ModPack.Proofs.ScriptFiles
import ModPack.Proofs.SecondBuild

/-!
# Sheets with any number of slots

A document in UTF-8 without a declaration is read as its characters, and empty elements in a row
become the children of the element around them. So a sheet can list as many animations as one likes,
and the sprite that is read from it has a slot for each. Main statements: `toList_encode`,
`readText_encode`, `forest?_tags` and `load_cinema`.
-/
namespace ModPack

/-! ## Plain documents -/

namespace Utf8

theorem toList_bytes (bytes : ByteArray) : bytes.toList = bytes.data.toList := by
  have hloop (start : Nat) (front : List UInt8) : ByteArray.toList.loop bytes start front =
      front.reverse ++ bytes.data.toList.drop start := by
    fun_induction ByteArray.toList.loop bytes start front with
    | case1 start front hlt ih =>
      have hsize : start < bytes.data.size := hlt
      have hlength : start < bytes.data.toList.length := by rwa [Array.length_toList]
      have hget : bytes.get! start = bytes.data.toList[start] := by
        change bytes.data[start]! = _
        rw [getElem!_pos bytes.data start hsize, Array.getElem_toList]
      rw [ih, hget, List.reverse_cons, List.append_assoc, List.singleton_append,
        ← List.drop_eq_getElem_cons]
    | case2 start front hnot =>
      rw [List.drop_eq_nil_of_le (by simpa using Nat.le_of_not_lt hnot), List.append_nil]
  rw [ByteArray.toList, hloop]
  rfl

/-- A text is encoded character by character. -/
theorem toList_encode (text : String) :
    (encode text).toList = text.toList.flatMap String.utf8EncodeChar := by
  have hbytes : encode text = text.toList.utf8Encode := by
    rw [encode, String.toUTF8_eq_toByteArray]
    conv_lhs => rw [← String.ofList_toList (s := text)]
    rfl
  rw [toList_bytes, hbytes, List.utf8Encode, List.toList_data_toByteArray]

theorem decode_toList_encode (text : String) :
    decode ⟨(encode text).toList.toArray⟩ = .ok text := by
  rw [toList_bytes, Array.toArray_toList]
  exact decode_encode text

end Utf8

namespace Markup

/-- A document in UTF-8 that begins with the tag of a sheet is read as it is written: there is no
mark and no declaration in front of its text. -/
theorem readText_encode {text : String} {rest : List Char}
    (hbegins : text.toList = '<' :: 'S' :: rest)
    (hchars : text.toList.all isDocumentChar = true) (hlines : '\r' ∉ text.toList) :
    readText (Utf8.encode text).toList = .ok ({}, text.toList) := by
  have hbytes : (Utf8.encode text).toList =
      0x3C :: 0x53 :: rest.flatMap String.utf8EncodeChar := by
    rw [Utf8.toList_encode, hbegins]
    rfl
  have hstart : Encoding.start (Utf8.encode text).toList =
      (.utf8, (Utf8.encode text).toList) := by
    rw [hbytes]
    rfl
  have hlook : (Encoding.utf8.firstLook (Utf8.encode text).toList).bind Declaration.split =
      some ({}, (Utf8.encode text).toList.map fun byte => Char.ofNat byte.toNat) := by
    rw [hbytes]
    rfl
  have hdecode : (Encoding.utf8.decode (Utf8.encode text).toList).bind Declaration.split =
      some ({}, text.toList) := by
    rw [Encoding.decode, Utf8.decode_toList_encode]
    change Declaration.split text.toList = _
    rw [hbegins]
    rfl
  rw [readText, hstart]
  dsimp only
  rw [hlook]
  dsimp only [Except.bind, bind, pure, Except.pure]
  rw [hdecode]
  dsimp only
  rw [if_pos hchars, Text.unifyNewlines_of_not_mem hlines]

theorem root?_of_forest {doctype : Doctype} {tokens : List Token} {root : Element}
    (h : Element.forest? doctype false doctype.entities .outermost [] [] tokens = some [root]) :
    Element.root? doctype tokens = some root := by
  rw [Element.root?, h]

end Markup

namespace Sample

open Markup (Element OpenElement Scope Token)
open Package (gatheredAll)

variable {slots : Nat}

/-! ## The sheet -/

/-- A slot without a name. -/
def unnamed : Element :=
  ⟨⟨none, "A"⟩, [], []⟩

/-- A sheet with some animations and no palettes. -/
def reel (slots : Nat) : Element :=
  ⟨⟨none, "Sheet"⟩, [], [⟨⟨none, "PaletteList"⟩, [], []⟩,
    ⟨⟨none, "AnimationList"⟩, [], List.replicate slots unnamed⟩]⟩

def reelTokens (slots : Nat) : List Token :=
  tag "Sheet" false :: tag "PaletteList" true :: tag "AnimationList" false ::
    (List.replicate slots (tag "A" true) ++
      [.stop ⟨none, "AnimationList"⟩, .stop ⟨none, "Sheet"⟩])

def reelText (slots : Nat) : String :=
  .ofList ("<Sheet><PaletteList/><AnimationList>".toList ++
    ((List.replicate slots "<A/>".toList).flatten ++ "</AnimationList></Sheet>".toList))

theorem ofStart?_plain (name : String) : OpenElement.ofStart? {} Scope.outermost ⟨none, name⟩ [] =
    some ⟨⟨none, name⟩, ⟨none, name⟩, [], Scope.outermost, []⟩ := rfl

/-- Empty elements in a row become children of the innermost open one. -/
theorem forest?_tags (item : OpenElement) (hscope : item.scope = Scope.outermost)
    (opened : List OpenElement) (done : List Element) (rest : List Token) :
    Element.forest? {} false [] .outermost (item :: opened) done
        (List.replicate slots (tag "A" true) ++ rest) =
      Element.forest? {} false [] .outermost
        ({ item with children := List.replicate slots unnamed ++ item.children } :: opened) done
        rest := by
  induction slots generalizing item with
  | zero => rfl
  | succ slots ih =>
    rw [List.replicate_succ, List.cons_append, tag, Element.forest?]
    simp only [List.head?_cons, Option.map_some, Option.getD_some, hscope, ofStart?_plain,
      if_true, OpenElement.close, Element.add, List.reverse_nil]
    have hrest := ih { item with children := unnamed :: item.children } hscope
    rw [hscope] at hrest
    rw [List.replicate_succ', List.append_assoc]
    exact hrest

theorem root_reel (slots : Nat) : Element.root? {} (reelTokens slots) = some (reel slots) := by
  have hforest : Element.forest? {} false [] .outermost [] [] (reelTokens slots) =
      some [reel slots] := by
    rw [reelTokens, tag, tag, tag]
    simp only [Element.forest?, List.head?_nil, Option.map_none, Option.getD_none, ofStart?_plain,
      Bool.false_eq_true, if_false, List.head?_cons, Option.map_some, Option.getD_some, if_true,
      OpenElement.close, Element.add, List.reverse_nil]
    rw [forest?_tags _ rfl]
    simp [Element.forest?, OpenElement.close, Element.add, reel]
  exact Markup.root?_of_forest hforest

theorem toList_reelText (slots : Nat) : (reelText slots).toList =
    "<Sheet><PaletteList/><AnimationList>".toList ++
      ((List.replicate slots "<A/>".toList).flatten ++ "</AnimationList></Sheet>".toList) :=
  String.toList_ofList

theorem of_mem_reelText {c : Char} (h : c ∈ (reelText slots).toList) :
    Markup.isDocumentChar c = true ∧ c ≠ '\r' := by
  have hslot : ("<A/>".toList.all fun c => Markup.isDocumentChar c && c != '\r') = true := by decide
  have hplain : ((reelText slots).toList.all fun c => Markup.isDocumentChar c && c != '\r') =
      true := by
    rw [toList_reelText, List.all_append, List.all_append, List.all_flatten, List.all_replicate,
      hslot, ite_self]
    decide
  simpa using List.all_eq_true.1 hplain c h

theorem read_reel (hscan : Token.scan (reelText slots).toList = some (reelTokens slots)) :
    Markup.read (Utf8.encode (reelText slots)) = .ok (reel slots) := by
  have hbegins : (reelText slots).toList =
      '<' :: 'S' :: ("heet><PaletteList/><AnimationList>".toList ++
        ((List.replicate slots "<A/>".toList).flatten ++ "</AnimationList></Sheet>".toList)) :=
    toList_reelText slots
  have htext := Markup.readText_encode hbegins
    (List.all_eq_true.2 fun _ hmem => (of_mem_reelText hmem).1)
    fun hmem => (of_mem_reelText hmem).2 rfl
  refine Markup.read_of_scan htext ?_ ?_ hscan (root_reel slots)
  · rw [hbegins, Markup.afterAsides?]
    rfl
  · rw [hbegins]
    rfl

theorem slotNames_unnamed (slots : Nat) :
    Sprite.slotNames ⟨⟨none, "AnimationList"⟩, [], List.replicate slots unnamed⟩ =
      (List.range slots).map Hex.text := by
  refine List.ext_getElem (by simp [Sprite.slotNames]) fun place _ _ => ?_
  simp [Sprite.slotNames, unnamed, Element.attributeNamed?, Sprite.slotName]

/-! ## A package with the sheet -/

def framePath : Path :=
  stagePath / "src" / "sprite" / "frame"

/-- A sprite whose animations go by their numbers. -/
def frame (slots : Nat) : Sprite where
  dir := framePath
  animations := (List.range slots).map Hex.text

theorem ofSheet_reel (slots : Nat) : Sprite.ofSheet framePath (reel slots) = .ok (frame slots) := by
  have hpalettes : (reel slots).first? ⟨none, "PaletteList"⟩ =
      some ⟨⟨none, "PaletteList"⟩, [], []⟩ := by
    simp [reel, Element.first?, Element.firstIn?]
  have hanimations : (reel slots).first? ⟨none, "AnimationList"⟩ =
      some ⟨⟨none, "AnimationList"⟩, [], List.replicate slots unnamed⟩ := by
    simp [reel, Element.first?, Element.firstIn?]
  refine Sprite.ofSheet_eq_ok.2 ⟨_, _, hpalettes, hanimations, ?_⟩
  rw [slotNames_unnamed]
  rfl

/-- A package with the sprite, and with an actor that has a given script. -/
def cinema (slots : Nat) (script : String) : Disk where
  tree := ⟨(stage sidecar script).tree.entries ++ [
    (["sprite", "src", "stage"], .directory),
    (["frame", "sprite", "src", "stage"], .directory),
    (["SpriteSheet.xml", "frame", "sprite", "src", "stage"],
      .file (Utf8.encode (reelText slots)))]⟩

def cinemaPackage (slots : Nat) : Package :=
  packageWith stagePath stageFile.manifest { stageOwn hello hint with sprites := [frame slots] }

theorem load_cinema {script : String}
    (hscan : Token.scan (reelText slots).toList = some (reelTokens slots))
    (hstrings : (gatheredAll (cinema slots script) (stagePath / "src" / "string") false
      fun path => Loading.orRefuse (NamedString.load (cinema slots script) "stage" path)
        id).toOption = some (stageOwn hello hint).strings) :
    (Package.load {} (cinema slots script) stagePath).result = .ok (cinemaPackage slots) := by
  have hdirectory : (cinema slots script).directory? stagePath = some ["stage"] := rfl
  have hactors : (cinema slots script).list (stagePath / "src" / "actor") =
      .ok [("goomba", .directory)] :=
    Disk.list_ok.2 ⟨["actor", "src", "stage"], rfl, by simp [FileTree.children, cinema, stage]⟩
  have hsprites : (cinema slots script).list (stagePath / "src" / "sprite") =
      .ok [("frame", .directory)] :=
    Disk.list_ok.2 ⟨["sprite", "src", "stage"], rfl, by simp [FileTree.children, cinema, stage]⟩
  have hframe : (Sprite.load (cinema slots script) framePath).result = .ok (frame slots) :=
    Sprite.load_ok.2 ⟨by decide, _, _, rfl, read_reel hscan, ofSheet_reel slots⟩
  have hgathered : Package.gathered (stagePath / "src" / "sprite") true
      (fun path => do return [← Sprite.load (cinema slots script) path]) [("frame", .directory)] =
        .ok [frame slots] :=
    Package.gathered_cons_ok.2 ⟨_, Report.result_bind_ok.2 ⟨_, hframe, rfl⟩, [], rfl, rfl⟩
  refine load_packageWith hdirectory (stageFile.checkedManifest hdirectory rfl) rfl ?_
  refine definitions_of_actor "hello" "_hint" rfl (by decide) ?_ rfl hactors rfl
    (by decide +kernel) (by decide +kernel) (by decide +kernel) hstrings
  have hthere : (cinema slots script).isDirectory (stagePath / "src" / "sprite") = true := rfl
  rw [gatheredAll, if_pos hthere, hsprites]
  exact hgathered

end Sample

end ModPack
