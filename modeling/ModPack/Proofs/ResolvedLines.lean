import ModPack.Proofs.ExpressionScan
import ModPack.Proofs.ScriptDumps
import ModPack.Proofs.ScriptResolution

/-!
# Resolved lines

Resolving replaces expressions and nothing else, so a line can be resolved in parts wherever no
expression is cut through. What takes the place of an expression has no brace in it. A brace that
opened nothing still opens nothing then, as long as the next brace behind it is a closing one: what
stands between the two is not changed. So in such a line no expression comes to be, and resolving
again finds nothing to do. Main statements: `scan_exact`, `listed_of_becomes` and `line_settles`.
-/
namespace ModPack

namespace Report

variable {ε α β γ : Type}

theorem bind_bind (first : Report ε α) (next : α → Report ε β) (last : β → Report ε γ) :
    first >>= next >>= last = first >>= fun value => next value >>= last := by
  obtain ⟨events, result⟩ := first
  cases result with
  | error error => rfl
  | ok value =>
    cases hnext : (next value).result with
    | error error => simp [bind, Report.bind, hnext]
    | ok between => simp [bind, Report.bind, hnext]

theorem pure_bind (value : α) (next : α → Report ε β) : pure value >>= next = next value := by
  simp [bind, Report.bind, pure, Report.pure]

theorem bind_pure (report : Report ε α) : report >>= pure = report := by
  obtain ⟨events, result⟩ := report
  cases result with
  | error error => simp [bind, Report.bind]
  | ok value => simp [bind, Report.bind, pure, Report.pure]

end Report

/-! ## Lines in parts -/

namespace Resolution

variable {exports : Exports} {path : Path} {source : String} {place : Place}

theorem segments_append (front back : List Segment) :
    segments exports place (front ++ back) = do
      let first ← segments exports place front
      let second ← segments exports place back
      return first ++ second := by
  induction front with
  | nil =>
    rw [List.nil_append, segments, Report.pure_bind]
    exact (Report.bind_pure _).symm
  | cons piece front ih =>
    rw [List.cons_append, segments, segments, ih]
    simp only [Report.bind_bind, Report.pure_bind, List.append_assoc]

/-- The two parts of a line have the line's number. -/
theorem line_append {front back : String} (number : Nat)
    (h : ∀ position expression,
      Expression.StandsAt (front.toList ++ back.toList) position expression →
        position < front.length → position + expression.text.length ≤ front.length) :
    line exports path source ⟨number, front ++ back⟩ = do
      let first ← line exports path source ⟨number, front⟩
      let second ← line exports path source ⟨number, back⟩
      return ⟨number, first.text ++ second.text⟩ := by
  have hcut : Expression.segments (front ++ back).toList =
      Expression.segments front.toList ++ Expression.segments back.toList := by
    rw [String.toList_append]
    rw [← String.length_toList] at h
    exact Expression.segments_append h
  simp only [line, hcut, segments_append, Report.bind_bind, Report.pure_bind, String.ofList_append]

end Resolution

namespace Expression

/-- The expressions that are found in a line are the texts in it that have the form of one, each
printed as it is read. No two of these texts have a character in common. A line that is divided
where no expression is cut through is resolved as its two parts are, one after the other. -/
theorem scan_exact (line : String) :
    (∀ position expression, (position, expression) ∈ scan line ↔
      expression.Formed ∧ expression.form <+: line.toList.drop position) ∧
    (scan line).Pairwise (fun found next => found.1 + found.2.form.length ≤ next.1) ∧
    (∀ found ∈ scan line,
      found.2.text.toList = (line.toList.drop found.1).take found.2.form.length) ∧
    (∀ position text later other, HasForm text → text <+: line.toList.drop position →
      HasForm other → other <+: line.toList.drop later →
        (position = later ∧ text = other) ∨ position + text.length ≤ later ∨
          later + other.length ≤ position) ∧
    ∀ front back : String, line = front ++ back →
      (∀ found ∈ scan line,
        ¬ (found.1 < front.length ∧ front.length < found.1 + found.2.form.length)) →
      ∀ exports path source number,
        Resolution.line exports path source ⟨number, line⟩ = do
          let first ← Resolution.line exports path source ⟨number, front⟩
          let second ← Resolution.line exports path source ⟨number, back⟩
          return ⟨number, first.text ++ second.text⟩ := by
  have hstands {position : Nat} {expression : Expression} (hformed : expression.Formed)
      (hhere : expression.form <+: line.toList.drop position) :
      StandsAt line.toList position expression :=
    ⟨hformed, form_eq expression ▸ hhere⟩
  simp only [length_form]
  refine ⟨fun position expression => ?_, (pairwise_expressionsFrom 0 _).1, ?_, ?_, ?_⟩
  · rw [mem_scan]
    exact ⟨fun h => ⟨h.formed, form_eq expression ▸ h.here⟩, fun h => hstands h.1 h.2⟩
  · rintro ⟨position, expression⟩ hfound
    rw [← String.length_toList]
    exact List.prefix_iff_eq_take.1 (mem_scan.1 hfound).here
  · rintro position _ later _ ⟨expression, hformed, rfl⟩ hhere ⟨other, hother, rfl⟩ hthere
    rw [length_form, length_form]
    have hfirst := hstands hformed hhere
    have hsecond := hstands hother hthere
    rcases Nat.lt_trichotomy position later with hlt | rfl | hlt
    · exact .inr (.inl (hfirst.apart hsecond hlt))
    · exact .inl ⟨rfl, congrArg form (hfirst.eq hsecond)⟩
    · exact .inr (.inr (hsecond.apart hfirst hlt))
  · rintro front back rfl hwhole exports path source number
    refine Resolution.line_append number fun position expression hhere hlt => ?_
    have hfound := hwhole (position, expression) (mem_scan.2 (by rwa [String.toList_append]))
    by_contra hcut
    exact hfound ⟨hlt, Nat.lt_of_not_le hcut⟩

end Expression

namespace Sample

/-- The beginning of an expression, which is not closed before the next one begins. -/
def opening : String :=
  "\x7bSprite:"

def glowing : String :=
  "{Sprite:lamp:glow} {Actor:lamp:glow}"

end Sample

theorem Expression.scan_exact_opening :
    scan (Sample.opening ++ Sample.glowing) =
        [(8, ⟨.sprite, ["lamp", "glow"]⟩), (27, ⟨.actor, ["lamp", "glow"]⟩)] ∧
      Resolution.line Sample.lampExports Sample.notice.path "game"
          ⟨1, Sample.opening ++ Sample.glowing⟩ = do
        let first ←
          Resolution.line Sample.lampExports Sample.notice.path "game" ⟨1, Sample.opening⟩
        let second ←
          Resolution.line Sample.lampExports Sample.notice.path "game" ⟨1, Sample.glowing⟩
        return ⟨1, first.text ++ second.text⟩ := by
  have hscan : scan (Sample.opening ++ Sample.glowing) =
      [(8, ⟨.sprite, ["lamp", "glow"]⟩), (27, ⟨.actor, ["lamp", "glow"]⟩)] := by
    decide +kernel
  refine ⟨hscan, (scan_exact _).2.2.2.2 _ _ rfl ?_ _ _ _ _⟩
  rw [hscan]
  decide +kernel

/-! ## What is left in a line -/

namespace Expression

instance : DecidablePred Supported := fun ⟨kind, arguments⟩ =>
  match kind with
  | .sprite => inferInstanceAs (Decidable (arguments.length ∈ [1, 2, 3]))
  | .text => inferInstanceAs (Decidable (arguments.length = 1))
  | .actor => inferInstanceAs (Decidable (arguments.length = 1))

/-- The expressions of a line, in order. -/
def listed (line : List Char) : List Expression :=
  (segments line).filterMap fun
    | .plain _ => none
    | .expression value => some value

variable {exports : Exports} {source : String} {expression : Expression} {word : String}
  {front text line inner : List Char} {parts : List (List Char)}

theorem map_scan (line : String) : (scan line).map Prod.snd = listed line.toList := by
  have hfrom (start : Nat) (pieces : List Segment) :
      (Segment.expressionsFrom start pieces).map Prod.snd = pieces.filterMap fun
        | .plain _ => none
        | .expression value => some value := by
    induction pieces generalizing start with
    | nil => rfl
    | cons piece pieces ih =>
      cases piece with
      | plain c => exact ih _
      | expression value => exact congrArg _ (ih _)
  exact hfrom 0 _

theorem listed_of_formed (h : expression.Formed) (after : List Char) :
    listed (expression.text.toList ++ after) = expression :: listed after := by
  rw [listed, segments_of_formed h]
  rfl

theorem listed_cons {c : Char} (h : c = '\x7b' → opened? text = none) :
    listed (c :: text) = listed text := by
  rw [listed, segments_cons h]
  rfl

/-- Nothing is found in a text without an opening brace. -/
theorem segments_append_of_not_mem (h : '\x7b' ∉ front) (back : List Char) :
    segments (front ++ back) = front.map .plain ++ segments back := by
  induction front with
  | nil => rfl
  | cons c front ih =>
    obtain ⟨hc, hfront⟩ := not_or.1 (mt List.mem_cons.2 h)
    rw [List.cons_append, segments_cons fun heq => absurd heq.symm hc, ih hfront]
    rfl

theorem listed_append_of_not_mem (h : '\x7b' ∉ front) (back : List Char) :
    listed (front ++ back) = listed back := by
  rw [listed, segments_append_of_not_mem h, List.filterMap_append]
  simp [listed]

theorem Denotes.supported (h : expression.Denotes exports source word) : expression.Supported := by
  by_contra hnone
  have hword := Resolution.value_word_iff.2 h
  rw [Resolution.value_of_not_supported hnone] at hword
  cases hword

/-- A word has no brace in it. -/
theorem Denotes.not_mem (h : expression.Denotes exports source word) : '\x7b' ∉ word.toList := by
  intro hmem
  rcases (Resolution.isWord_value (Resolution.value_word_iff.2 h)).digits _ hmem with hc | hc
  · exact absurd hc (by decide)
  · exact absurd hc (by decide)

/-- Between any two opening braces there is a closing one. -/
def BracesApart (text : List Char) : Prop :=
  ∀ later < text.length, ∀ earlier < later,
    text[earlier]? = some '\x7b' ∧ text[later]? = some '\x7b' →
      '\x7d' ∈ (text.take later).drop earlier

instance : DecidablePred BracesApart := fun text =>
  inferInstanceAs (Decidable (∀ later < text.length, ∀ earlier < later,
    text[earlier]? = some '\x7b' ∧ text[later]? = some '\x7b' →
      '\x7d' ∈ (text.take later).drop earlier))

theorem BracesApart.of_append (h : BracesApart (front ++ text)) : BracesApart text := by
  rintro later hlater earlier hearlier ⟨hfirst, hsecond⟩
  have hshift (place : Nat) : (front ++ text)[front.length + place]? = text[place]? := by
    rw [List.getElem?_append_right (Nat.le_add_right _ _), Nat.add_sub_cancel_left]
  have hclosed := h (front.length + later) (by simpa using hlater) (front.length + earlier)
    (by omega) ⟨by rwa [hshift], by rwa [hshift]⟩
  rwa [List.take_length_add_append, List.drop_length_add_append] at hclosed

theorem BracesApart.of_cons {c : Char} (h : BracesApart (c :: text)) : BracesApart text :=
  of_append (List.singleton_append ▸ h)

/-- Behind an opening brace the next brace, if there is one, is a closing one. -/
theorem BracesApart.next (h : BracesApart ('\x7b' :: text)) :
    ∃ inner rest, text = inner ++ rest ∧ (∀ c ∈ inner, isBrace c = false) ∧
      (rest = [] ∨ ∃ after, rest = '\x7d' :: after) := by
  obtain ⟨inner, rest, rfl, hinner, hrest⟩ := exists_next_brace text
  refine ⟨inner, rest, rfl, hinner, ?_⟩
  rcases hrest with rfl | ⟨after, rfl | rfl⟩
  · exact .inl rfl
  · have hclosed : '\x7d' ∈ '\x7b' :: inner := by
      simpa using h (inner.length + 1) (by simp) 0 (by omega) ⟨rfl, by simp⟩
    rcases List.mem_cons.1 hclosed with hopen | hclosed
    · exact absurd hopen (by decide)
    · exact absurd (hinner _ hclosed) (by decide)
  · exact .inr ⟨after, rfl⟩

theorem not_mem_of_isBrace (h : ∀ c ∈ inner, isBrace c = false) : '\x7b' ∉ inner :=
  fun hmem => absurd (h _ hmem) (by decide)

end Expression

namespace Segment.Becomes

variable {exports : Exports} {source : String} {pieces : List Segment} {parts : List (List Char)}

/-- Characters outside of expressions stay. -/
theorem exists_rest {front : List Char}
    (h : List.Forall₂ (Segment.Becomes exports source) (front.map .plain ++ pieces) parts) :
    ∃ rest, List.Forall₂ (Segment.Becomes exports source) pieces rest ∧
      parts.flatten = front ++ rest.flatten := by
  induction front generalizing parts with
  | nil => exact ⟨parts, h, rfl⟩
  | cons c front ih =>
    obtain ⟨_, _, hfirst, hrest, rfl⟩ := List.forall₂_cons_left_iff.1 h
    cases hfirst
    obtain ⟨rest, hforall, hflatten⟩ := ih hrest
    exact ⟨rest, hforall, by simp [hflatten]⟩

end Segment.Becomes

namespace Expression

variable {exports : Exports} {source : String} {text line : List Char}
  {parts : List (List Char)}

/-- A brace that opens no expression opens none when what is behind it is resolved: up to the next
brace nothing changes. -/
theorem opened?_of_becomes (hapart : BracesApart ('\x7b' :: text)) (hnone : opened? text = none)
    (h : List.Forall₂ (Segment.Becomes exports source) (segments text) parts) :
    opened? parts.flatten = none := by
  obtain ⟨inner, rest, rfl, hinner, hrest⟩ := hapart.next
  rw [segments_append_of_not_mem (not_mem_of_isBrace hinner)] at h
  obtain ⟨behind, hbehind, hflatten⟩ := Segment.Becomes.exists_rest h
  rw [hflatten]
  rcases hrest with rfl | ⟨after, rfl⟩
  · rw [segments] at hbehind
    cases hbehind
    exact opened?_of_next hinner (.inl rfl)
  · rw [segments_cons fun heq => absurd heq (by decide)] at hbehind
    obtain ⟨_, later, hclose, _, rfl⟩ := List.forall₂_cons_left_iff.1 hbehind
    cases hclose
    rw [opened?_append hinner, Option.map_eq_none_iff] at hnone
    rw [List.flatten_cons, List.singleton_append, opened?_append hinner, hnone]
    rfl

/-- What is found in a line after its pieces have become something is what had no meaning in it. The
induction is on how the line is cut. -/
theorem listed_of_becomes (hapart : BracesApart line)
    (h : List.Forall₂ (Segment.Becomes exports source) (segments line) parts) :
    listed parts.flatten = (listed line).filter fun expression => ¬ expression.Supported := by
  fun_induction segments line generalizing parts with
  | case1 =>
    cases h
    simp [listed, segments]
  | case2 rest expression after hopened ih =>
    obtain ⟨hformed, hline⟩ := opened?_eq_some.1 hopened
    rw [hline] at hapart ⊢
    obtain ⟨first, parts, hfirst, hparts, rfl⟩ := List.forall₂_cons_left_iff.1 h
    have ih := ih hapart.of_append hparts
    rw [listed_of_formed hformed, List.flatten_cons]
    cases hfirst with
    | untouched hnone =>
      rw [listed_of_formed hformed, ih, List.filter_cons_of_pos (by simpa using hnone)]
    | word hdenotes =>
      rw [listed_append_of_not_mem hdenotes.not_mem, ih,
        List.filter_cons_of_neg (by simpa using hdenotes.supported)]
  | case3 rest hnone ih =>
    obtain ⟨_, parts, hfirst, hparts, rfl⟩ := List.forall₂_cons_left_iff.1 h
    cases hfirst
    have hstill := opened?_of_becomes hapart hnone hparts
    rw [List.flatten_cons, List.singleton_append, listed_cons fun _ => hstill,
      ih hapart.of_cons hparts, listed_cons fun _ => hnone]
  | case4 c rest hc ih =>
    obtain ⟨_, parts, hfirst, hparts, rfl⟩ := List.forall₂_cons_left_iff.1 h
    cases hfirst
    rw [List.flatten_cons, List.singleton_append, listed_cons fun heq => absurd heq hc,
      ih hapart.of_cons hparts, listed_cons fun heq => absurd heq hc]

end Expression

namespace Resolution

variable {exports : Exports} {path : Path} {source : String} {place : Place}

/-- Where no expression has a meaning, there is nothing to do. -/
theorem segments_of_not_supported {pieces : List Segment}
    (h : ∀ expression, .expression expression ∈ pieces → ¬ expression.Supported) :
    (segments exports place pieces).result = .ok (pieces.flatMap Segment.text) := by
  induction pieces with
  | nil => rfl
  | cons piece pieces ih =>
    have hrest := ih fun expression hmem => h expression (List.mem_cons_of_mem _ hmem)
    have hfirst : (segment exports place piece).result = .ok piece.text := by
      cases piece with
      | plain c => rfl
      | expression expression =>
        have hvalue : (value exports place.source expression).result = .ok none :=
          value_of_not_supported (h expression List.mem_cons_self)
        rw [segment]
        exact Report.result_bind_ok.2 ⟨none, Report.result_mapError_ok.2 hvalue, rfl⟩
    rw [segments]
    exact Report.result_bind_ok.2 ⟨_, hfirst, Report.result_bind_ok.2 ⟨_, hrest, rfl⟩⟩

theorem line_of_not_supported {settled : Line}
    (h : ∀ expression ∈ Expression.listed settled.text.toList, ¬ expression.Supported) :
    (line exports path source settled).result = .ok settled := by
  have hpieces : (segments exports ⟨path, settled.number, source⟩
      (Expression.segments settled.text.toList)).result = .ok settled.text.toList := by
    rw [segments_of_not_supported, Expression.text_segments]
    exact fun expression hmem => h expression (List.mem_filterMap.2 ⟨_, hmem, rfl⟩)
  rw [line]
  exact Report.result_bind_ok.2 ⟨_, hpieces, by simp⟩

/-- Resolving a line in which a closing brace stands between any two opening ones leaves nothing to
resolve: what is found in the result are the expressions without a meaning that were found before,
in their order, no text in it has the form of another one, and whatever it is resolved with it stays
as it is. -/
theorem line_settles {before after : Line} (hapart : Expression.BracesApart before.text.toList)
    (h : (line exports path source before).result = .ok after) :
    (∀ expression : Expression, expression.Formed → expression.form <:+: after.text.toList →
      ¬ expression.Supported) ∧
    (Expression.scan after.text).map Prod.snd =
      ((Expression.scan before.text).map Prod.snd).filter
        (fun expression => ¬ expression.Supported) ∧
    ∀ exports path source, (line exports path source after).result = .ok after := by
  obtain ⟨parts, -, hparts, hafter⟩ := (rewritten_of_line h).text
  have hlisted := Expression.listed_of_becomes hapart hparts
  rw [← hafter] at hlisted
  have hnone : ∀ expression ∈ Expression.listed after.text.toList, ¬ expression.Supported := by
    intro expression hmem
    rw [hlisted] at hmem
    simpa using (List.mem_filter.1 hmem).2
  refine ⟨?_, ?_, fun _ _ _ => line_of_not_supported hnone⟩
  · rintro expression hformed ⟨front, back, hinfix⟩
    have hfound : (front.length, expression) ∈ Expression.scan after.text := by
      rw [Expression.mem_scan, ← hinfix, List.append_assoc]
      refine Expression.standsAt_append.2 (?_ : Expression.StandsAt _ 0 _)
      rw [Expression.form_eq]
      exact .of_append hformed back
    refine hnone expression ?_
    rw [← Expression.map_scan]
    exact List.mem_map.2 ⟨_, hfound, rfl⟩
  · rw [Expression.map_scan, Expression.map_scan, hlisted]

end Resolution

namespace Sample

/-- One expression with a meaning among other uses of braces. -/
def mixed : Line :=
  ⟨2, "{Sprite} \x7d {Sprite:lamp:glow} { x} {Actor:lamp:glow}"⟩

def mixedAfter : Line :=
  ⟨2, "{Sprite} \x7d 00030001 { x} {Actor:lamp:glow}"⟩

end Sample

theorem Resolution.line_settles_mixed :
    Expression.BracesApart Sample.mixed.text.toList ∧
      (line Sample.lampExports Sample.notice.path "game" Sample.mixed).result =
        .ok Sample.mixedAfter ∧
      (line Sample.lampExports Sample.notice.path "game" Sample.mixedAfter).result =
        .ok Sample.mixedAfter := by
  have hapart : Expression.BracesApart Sample.mixed.text.toList := by decide +kernel
  have hline : (line Sample.lampExports Sample.notice.path "game" Sample.mixed).result =
      .ok Sample.mixedAfter := by
    decide +kernel
  exact ⟨hapart, hline, (line_settles hapart hline).2.2 _ _ _⟩

/-- Two opening braces in a row: what the inner expression becomes completes the outer one. -/
example : (Resolution.line Sample.lampExports Sample.notice.path "game"
    ⟨2, "\x7bSprite:{Sprite:lamp}\x7d"⟩).result = .ok ⟨2, "{Sprite:03}"⟩ := by
  decide +kernel

end ModPack
