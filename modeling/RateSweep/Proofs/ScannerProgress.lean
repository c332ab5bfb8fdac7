import Mathlib
import RateSweep.Yaml.Token

namespace RateSweep.Yaml

namespace Cursor

variable {c c' : Cursor}

theorem drop_suffix (c : Cursor) (n : Nat) : (c.drop n).rest <:+ c.rest := List.drop_suffix n c.rest

theorem drop_succ_suffix (c : Cursor) (n : Nat) : (c.drop (n + 1)).rest <:+ c.rest.tail := by
  change c.rest.drop (n + 1) <:+ c.rest.tail
  rw [← List.drop_one, Nat.add_comm, ← List.drop_drop]
  exact List.drop_suffix _ _

theorem takeBreak_suffix (c : Cursor) : c.takeBreak.2.rest <:+ c.rest := by
  unfold takeBreak
  split
  · next h => exact h ▸ List.suffix_append ['\r', '\n'] _
  · next h =>
    split
    · exact h ▸ List.suffix_cons _ _
    · exact List.suffix_rfl
  · exact List.suffix_rfl

theorem skipComment_suffix (c : Cursor) : c.skipComment.rest <:+ c.rest := by
  unfold skipComment
  split
  · exact c.drop_suffix _
  · exact List.suffix_rfl

theorem suffix_of_endLine (h : c.endLine = some c') : c'.rest <:+ c.rest := by
  have hskip := c.skipSpaces.skipComment_suffix.trans (c.drop_suffix _)
  unfold endLine at h
  dsimp only at h
  split at h
  · obtain rfl := Option.some.inj h
    exact hskip
  · split at h
    · obtain rfl := Option.some.inj h
      exact (takeBreak_suffix _).trans hskip
    · cases h

end Cursor

variable {c c' : Cursor}

theorem Gap.suffix_of_scan {indent : Int} {fuel : Nat} {g g' : Gap}
    (h : g.scan indent fuel c = some (g', c')) : c'.rest <:+ c.rest := by
  induction fuel generalizing g c with
  | zero => cases h
  | succ fuel ih =>
    rw [scan] at h
    split at h
    · obtain ⟨-, rfl⟩ := Prod.mk.inj (Option.some.inj h)
      exact List.suffix_rfl
    · split at h
      · split at h
        · cases h
        · exact (ih h).trans (c.drop_suffix 1)
      · split at h
        · exact (ih h).trans c.takeBreak_suffix
        · obtain ⟨-, rfl⟩ := Prod.mk.inj (Option.some.inj h)
          exact List.suffix_rfl

theorem suffix_of_scanPlain {inFlow broken : Bool} {indent : Int} {fuel : Nat} {text : List Char}
    {gap : Gap} {r : ScalarScan} (h : scanPlain inFlow indent fuel text gap c = some (r, broken)) :
    r.cursor.rest <:+ c.rest := by
  induction fuel generalizing text gap c with
  | zero => cases h
  | succ fuel ih =>
    rw [scanPlain] at h
    split at h
    · obtain ⟨rfl, -⟩ := Prod.mk.inj (Option.some.inj h)
      exact List.suffix_rfl
    · obtain ⟨run, -, h⟩ := Option.bind_eq_some_iff.1 h
      have hrun := c.drop_suffix run.length
      dsimp only at h
      split at h
      · obtain ⟨rfl, -⟩ := Prod.mk.inj (Option.some.inj h)
        exact hrun
      · obtain ⟨⟨gap', behind⟩, hgap, h⟩ := Option.bind_eq_some_iff.1 h
        have hbehind := (Gap.suffix_of_scan hgap).trans hrun
        dsimp only at h
        split at h
        · obtain ⟨rfl, -⟩ := Prod.mk.inj (Option.some.inj h)
          exact hbehind
        · exact (ih h).trans hbehind

theorem suffix_of_scanQuoted {single : Bool} {fuel : Nat} {text : List Char} {r : ScalarScan}
    (h : scanQuoted single fuel text c = some r) : r.cursor.rest <:+ c.rest := by
  induction fuel generalizing text c with
  | zero => cases h
  | succ fuel ih =>
    rw [scanQuoted] at h
    split at h
    · cases h
    · obtain ⟨⟨run, n, stop⟩, -, h⟩ := Option.bind_eq_some_iff.1 h
      have hrun := c.drop_suffix n
      generalize (if single = true then '\'' else '"') = quote at h
      cases stop with
      | space =>
        dsimp only at h
        split at h
        · obtain rfl := Option.some.inj h
          exact (Cursor.drop_suffix _ 1).trans hrun
        · obtain ⟨⟨gap, behind⟩, hgap, h⟩ := Option.bind_eq_some_iff.1 h
          exact (ih h).trans ((Gap.suffix_of_scan hgap).trans hrun)
      | escapedBreak =>
        have hbreak := (Cursor.takeBreak_suffix _).trans hrun
        dsimp only at h
        split at h
        · obtain rfl := Option.some.inj h
          exact (Cursor.drop_suffix _ 1).trans hbreak
        · obtain ⟨⟨gap, behind⟩, hgap, h⟩ := Option.bind_eq_some_iff.1 h
          exact (ih h).trans ((Gap.suffix_of_scan hgap).trans hbreak)

theorem suffix_of_takeIncrement {d : Option Nat} (h : takeIncrement c = some (d, c')) :
    c'.rest <:+ c.rest := by
  unfold takeIncrement at h
  split at h
  · split at h
    · cases h
    · split at h
      · obtain ⟨-, rfl⟩ := Prod.mk.inj (Option.some.inj h)
        exact c.drop_suffix 1
      · obtain ⟨-, rfl⟩ := Prod.mk.inj (Option.some.inj h)
        exact List.suffix_rfl
  · obtain ⟨-, rfl⟩ := Prod.mk.inj (Option.some.inj h)
    exact List.suffix_rfl

theorem takeChomping_suffix (c : Cursor) : (takeChomping c).2.rest <:+ c.rest := by
  unfold takeChomping
  split
  · exact c.drop_suffix 1
  · exact List.suffix_rfl

theorem suffix_of_blockHeader {k : Chomping} {d : Option Nat}
    (h : blockHeader c = some (k, d, c')) : c'.rest <:+ c.rest := by
  have hchomp := takeChomping_suffix c
  unfold blockHeader at h
  generalize takeChomping c = p at h hchomp
  obtain ⟨k', behind⟩ := p
  refine List.IsSuffix.trans ?_ hchomp
  cases k' with
  | some k' =>
    obtain ⟨⟨d', behind'⟩, hdigit, h⟩ := Option.map_eq_some_iff.1 h
    obtain ⟨-, h⟩ := Prod.mk.inj h
    obtain ⟨-, rfl⟩ := Prod.mk.inj h
    exact suffix_of_takeIncrement hdigit
  | none =>
    obtain ⟨⟨d', behind'⟩, hdigit, h⟩ := Option.map_eq_some_iff.1 h
    refine List.IsSuffix.trans ?_ (suffix_of_takeIncrement hdigit)
    dsimp only at h
    split at h
    · obtain ⟨-, h⟩ := Prod.mk.inj h
      obtain ⟨-, rfl⟩ := Prod.mk.inj h
      exact takeChomping_suffix behind'
    · obtain ⟨-, h⟩ := Prod.mk.inj h
      obtain ⟨-, rfl⟩ := Prod.mk.inj h
      exact List.suffix_rfl

theorem suffix_of_blockBreaks {parent : Int} {fuel deepest found : Nat} {indent : Option Nat}
    {breaks text : List Char} (h : blockBreaks parent fuel indent deepest breaks c =
      some (found, text, c')) : c'.rest <:+ c.rest := by
  induction fuel generalizing indent deepest breaks c with
  | zero => cases h
  | succ fuel ih =>
    have hskip := c.drop_suffix (leadingSpaces indent c)
    rw [blockBreaks] at h
    split at h
    · cases h
    · split at h
      · exact (ih h).trans ((Cursor.takeBreak_suffix _).trans hskip)
      · obtain ⟨-, h⟩ := Prod.mk.inj (Option.some.inj h)
        obtain ⟨-, rfl⟩ := Prod.mk.inj h
        exact hskip

theorem suffix_of_blockLines {literal afterSpace : Bool} {parent : Int} {indent fuel : Nat}
    {text lastBreak breaks text' lastBreak' breaks' : List Char}
    (h : blockLines literal parent indent fuel text afterSpace lastBreak breaks c =
      some (text', lastBreak', breaks', c')) : c'.rest <:+ c.rest := by
  induction fuel generalizing text afterSpace lastBreak breaks c with
  | zero => cases h
  | succ fuel ih =>
    rw [blockLines] at h
    split at h
    · obtain ⟨⟨_, moreBreaks, behind⟩, hbreaks, h⟩ := Option.bind_eq_some_iff.1 h
      exact (ih h).trans ((suffix_of_blockBreaks hbreaks).trans
        ((Cursor.takeBreak_suffix _).trans (c.drop_suffix _)))
    · obtain ⟨-, h⟩ := Prod.mk.inj (Option.some.inj h)
      obtain ⟨-, h⟩ := Prod.mk.inj h
      obtain ⟨-, rfl⟩ := Prod.mk.inj h
      exact List.suffix_rfl

theorem suffix_of_scanBlock {literal : Bool} {parent : Int} {r : ScalarScan}
    (h : scanBlock literal parent c = some r) : r.cursor.rest <:+ c.rest := by
  obtain ⟨⟨k, increment, c₁⟩, hheader, h⟩ := Option.bind_eq_some_iff.1 h
  obtain ⟨c₂, hline, h⟩ := Option.bind_eq_some_iff.1 h
  obtain ⟨⟨indent, breaks, c₃⟩, hbreaks, h⟩ := Option.bind_eq_some_iff.1 h
  obtain ⟨⟨text, lastBreak, breaks', c₄⟩, hlines, h⟩ := Option.bind_eq_some_iff.1 h
  obtain rfl := Option.some.inj h
  exact (suffix_of_blockLines hlines).trans ((suffix_of_blockBreaks hbreaks).trans
    ((Cursor.suffix_of_endLine hline).trans (suffix_of_blockHeader hheader)))

theorem suffix_of_scanAnchor {name : List Char} (h : scanAnchor c = some (name, c')) :
    c'.rest <:+ c.rest := by
  unfold scanAnchor at h
  dsimp only at h
  split at h
  · cases h
  · obtain ⟨-, rfl⟩ := Prod.mk.inj (Option.some.inj h)
    exact c.drop_suffix _

theorem suffix_of_scanUri {verbatim : Bool} {fuel : Nat} {t : TagText}
    (h : scanUri verbatim fuel c = some (t, c')) : c'.rest <:+ c.rest := by
  induction fuel generalizing t c with
  | zero => cases h
  | succ fuel ih =>
    rw [scanUri] at h
    split at h
    · obtain ⟨bytes, -, h⟩ := Option.bind_eq_some_iff.1 h
      obtain ⟨⟨more, behind⟩, hmore, h⟩ := Option.bind_eq_some_iff.1 h
      obtain ⟨-, rfl⟩ := Prod.mk.inj (Option.some.inj h)
      exact (ih hmore).trans (c.drop_suffix _)
    · split at h
      · obtain ⟨⟨more, behind⟩, hmore, h⟩ := Option.bind_eq_some_iff.1 h
        obtain ⟨-, rfl⟩ := Prod.mk.inj (Option.some.inj h)
        exact (ih hmore).trans (c.drop_suffix 1)
      · obtain ⟨-, rfl⟩ := Prod.mk.inj (Option.some.inj h)
        exact List.suffix_rfl
    · obtain ⟨-, rfl⟩ := Prod.mk.inj (Option.some.inj h)
      exact List.suffix_rfl

theorem suffix_tail_of_scanHandle {handle : List Char} (h : scanHandle c = some (handle, c')) :
    c'.rest <:+ c.rest.tail := by
  unfold scanHandle at h
  split at h
  · dsimp only at h
    split at h
    · obtain ⟨-, rfl⟩ := Prod.mk.inj (Option.some.inj h)
      exact (Cursor.drop_suffix _ 1).trans (c.drop_succ_suffix _)
    · obtain ⟨-, rfl⟩ := Prod.mk.inj (Option.some.inj h)
      exact c.drop_succ_suffix _
  · cases h

theorem suffix_tail_of_scanTagParts {handle : List Char} {t : TagText}
    (h : scanTagParts c = some (handle, t, c')) : c'.rest <:+ c.rest.tail := by
  unfold scanTagParts at h
  split at h
  · obtain ⟨⟨suffix, c₁⟩, huri, h⟩ := Option.bind_eq_some_iff.1 h
    dsimp only at h
    split at h
    · cases h
    · obtain ⟨-, h⟩ := Prod.mk.inj (Option.some.inj h)
      obtain ⟨-, rfl⟩ := Prod.mk.inj h
      exact (c₁.drop_suffix 1).trans ((suffix_of_scanUri huri).trans (c.drop_succ_suffix 1))
  · obtain ⟨⟨handle, c₁⟩, hhandle, h⟩ := Option.bind_eq_some_iff.1 h
    obtain ⟨⟨suffix, c₂⟩, huri, h⟩ := Option.bind_eq_some_iff.1 h
    have hbehind := (suffix_of_scanUri huri).trans (suffix_tail_of_scanHandle hhandle)
    dsimp only at h
    split at h
    · split at h
      · cases h
      · obtain ⟨-, h⟩ := Prod.mk.inj (Option.some.inj h)
        obtain ⟨-, rfl⟩ := Prod.mk.inj h
        exact hbehind
    · split at h
      · obtain ⟨-, h⟩ := Prod.mk.inj (Option.some.inj h)
        obtain ⟨-, rfl⟩ := Prod.mk.inj h
        exact hbehind
      · obtain ⟨-, h⟩ := Prod.mk.inj (Option.some.inj h)
        obtain ⟨-, rfl⟩ := Prod.mk.inj h
        exact hbehind

theorem suffix_tail_of_scanTag {inFlow : Bool} {handle : List Char} {t : TagText}
    (h : scanTag inFlow c = some (handle, t, c')) : c'.rest <:+ c.rest.tail := by
  obtain ⟨⟨handle, suffix, c₁⟩, hparts, h⟩ := Option.bind_eq_some_iff.1 h
  dsimp only at h
  split at h
  · obtain ⟨-, h⟩ := Prod.mk.inj (Option.some.inj h)
    obtain ⟨-, rfl⟩ := Prod.mk.inj h
    exact suffix_tail_of_scanTagParts hparts
  · cases h

theorem suffix_of_scanNumber {n : Nat} (h : scanNumber c = some (n, c')) : c'.rest <:+ c.rest := by
  unfold scanNumber at h
  dsimp only at h
  split at h
  · cases h
  · obtain ⟨-, rfl⟩ := Prod.mk.inj (Option.some.inj h)
    exact c.drop_suffix _

theorem suffix_of_scanVersion {d : Directive} (h : scanVersion c = some (d, c')) :
    c'.rest <:+ c.rest := by
  obtain ⟨⟨major, c₁⟩, hmajor, h⟩ := Option.bind_eq_some_iff.1 h
  dsimp only at h
  split at h
  · cases h
  · obtain ⟨⟨minor, c₂⟩, hminor, h⟩ := Option.bind_eq_some_iff.1 h
    obtain ⟨-, rfl⟩ := Prod.mk.inj (Option.some.inj h)
    exact (suffix_of_scanNumber hminor).trans ((Cursor.drop_suffix _ 1).trans
      ((suffix_of_scanNumber hmajor).trans (c.drop_suffix _)))

theorem suffix_of_scanTagStem {d : Directive} (h : scanTagStem c = some (d, c')) :
    c'.rest <:+ c.rest := by
  obtain ⟨⟨handle, c₁⟩, hhandle, h⟩ := Option.bind_eq_some_iff.1 h
  have hspaces := c.drop_suffix (c.rest.takeWhile isSpace).length
  have hhandle := (suffix_tail_of_scanHandle hhandle).trans ((List.tail_suffix _).trans hspaces)
  dsimp only at h
  split at h
  · cases h
  · split at h
    · cases h
    · obtain ⟨⟨stem, c₂⟩, hstem, h⟩ := Option.bind_eq_some_iff.1 h
      dsimp only at h
      split at h
      · cases h
      · obtain ⟨-, rfl⟩ := Prod.mk.inj (Option.some.inj h)
        exact (suffix_of_scanUri hstem).trans ((c₁.drop_suffix _).trans hhandle)

theorem suffix_of_scanDirectiveText {name : List Char} {d : Directive}
    (h : scanDirectiveText name c = some (d, c')) : c'.rest <:+ c.rest := by
  unfold scanDirectiveText at h
  split at h
  · exact suffix_of_scanVersion h
  · split at h
    · exact suffix_of_scanTagStem h
    · cases h

theorem suffix_of_scanDirective {d : Directive} (h : scanDirective c = some (d, c')) :
    c'.rest <:+ c.rest := by
  unfold scanDirective at h
  dsimp only at h
  split at h
  · cases h
  · obtain ⟨⟨directive, c₁⟩, htext, h⟩ := Option.bind_eq_some_iff.1 h
    obtain ⟨c₂, hline, h⟩ := Option.bind_eq_some_iff.1 h
    obtain ⟨-, rfl⟩ := Prod.mk.inj (Option.some.inj h)
    exact (Cursor.suffix_of_endLine hline).trans
      ((suffix_of_scanDirectiveText htext).trans (c.drop_suffix _))

theorem startsPlain_iff {inFlow : Bool} {ch : Char} {behind : List Char} :
    Scanner.startsPlain inFlow ch behind = true ↔
      isSpaceOrBreak ch = false ∧ Scanner.indicators.contains ch = false ∨
      ch = '-' ∧ behind.head?.all (fun c => !isSpace c) = true ∨
      inFlow = false ∧ (ch = '?' ∨ ch = ':') ∧ startsBlank behind = false := by
  simp [Scanner.startsPlain, or_assoc, and_assoc]

theorem ne_nil_of_plainRun {inFlow : Bool} {ch : Char} {behind run : List Char}
    (hstart : Scanner.startsPlain inFlow ch behind = true)
    (h : plainRun inFlow (ch :: behind) = some run) : run ≠ [] := by
  have hflow : ∀ c ∈ flowIndicators, Scanner.indicators.contains c = true ∧ c ≠ '-' := by
    simp [flowIndicators, Scanner.indicators]
  have hspace : isSpaceOrBreak ch = false := by
    rcases startsPlain_iff.1 hstart with ⟨hspace, -⟩ | ⟨rfl, -⟩ | ⟨-, rfl | rfl, -⟩
    · exact hspace
    all_goals decide
  have hcolon : ¬ (ch = ':' ∧ startsBlank behind = true) := by
    rintro ⟨rfl, hblank⟩
    rcases startsPlain_iff.1 hstart with ⟨-, hno⟩ | ⟨hdash, -⟩ | ⟨-, -, hno⟩
    · revert hno
      decide
    · revert hdash
      decide
    · rw [hblank] at hno
      cases hno
  have hmark : ¬ (inFlow = true ∧ flowIndicators.contains ch = true) := by
    rintro ⟨hin, hch⟩
    obtain ⟨hindicator, hdash⟩ := hflow ch (List.contains_iff_mem.1 hch)
    rcases startsPlain_iff.1 hstart with ⟨-, hno⟩ | ⟨hch, -⟩ | ⟨hno, -⟩
    · rw [hindicator] at hno
      cases hno
    · exact hdash hch
    · rw [hin] at hno
      cases hno
  rw [plainRun] at h
  simp only [hspace, Bool.false_eq_true, if_false, Bool.and_eq_true, decide_eq_true_eq, hcolon,
    hmark] at h
  split at h
  · cases h
  · obtain ⟨more, -, rfl⟩ := Option.map_eq_some_iff.1 h
    exact List.cons_ne_nil _ _

theorem suffix_tail_of_scanPlain {inFlow broken : Bool} {indent : Int} {fuel : Nat}
    {text behind : List Char} {ch : Char} {gap : Gap} {r : ScalarScan}
    (hrest : c.rest = ch :: behind) (hstart : Scanner.startsPlain inFlow ch behind = true)
    (hmarker : c.atDocumentMarker = false)
    (h : scanPlain inFlow indent fuel text gap c = some (r, broken)) :
    r.cursor.rest <:+ c.rest.tail := by
  cases fuel with
  | zero => cases h
  | succ fuel =>
    have hcomment : c.peek ≠ some '#' := by
      intro hpeek
      obtain rfl : ch = '#' := by simpa [Cursor.peek, hrest] using hpeek
      rcases startsPlain_iff.1 hstart with ⟨-, hno⟩ | ⟨hdash, -⟩ | ⟨-, hno | hno, -⟩
      · revert hno
        decide
      · revert hdash
        decide
      · revert hno
        decide
      · revert hno
        decide
    rw [scanPlain, if_neg (by simp [hmarker, hcomment])] at h
    obtain ⟨run, hrun, h⟩ := Option.bind_eq_some_iff.1 h
    rw [hrest] at hrun
    obtain ⟨n, hn⟩ := Nat.exists_eq_add_one_of_ne_zero
      (mt List.length_eq_zero_iff.1 (ne_nil_of_plainRun hstart hrun))
    have hbehind := c.drop_succ_suffix n
    rw [hn] at h
    dsimp only at h
    split at h
    · obtain ⟨rfl, -⟩ := Prod.mk.inj (Option.some.inj h)
      exact hbehind
    · obtain ⟨⟨gap', c₁⟩, hgap, h⟩ := Option.bind_eq_some_iff.1 h
      have hgap := (Gap.suffix_of_scan hgap).trans hbehind
      dsimp only at h
      split at h
      · obtain ⟨rfl, -⟩ := Prod.mk.inj (Option.some.inj h)
        exact hgap
      · exact (suffix_of_scanPlain h).trans hgap

namespace Scanner

variable {s s' : Scanner}

theorem skipBlank_suffix (fuel : Nat) (s : Scanner) :
    (s.skipBlank fuel).cursor.rest <:+ s.cursor.rest := by
  induction fuel generalizing s with
  | zero => exact List.suffix_rfl
  | succ fuel ih =>
    have hmark : (if s.cursor.column = 0 && s.cursor.peek = some '\ufeff' then s.cursor.drop 1
        else s.cursor).rest <:+ s.cursor.rest := by
      split
      · exact s.cursor.drop_suffix 1
      · exact List.suffix_rfl
    rw [skipBlank]
    generalize (if s.cursor.column = 0 && s.cursor.peek = some '\ufeff' then s.cursor.drop 1
        else s.cursor) = c at hmark
    have hblank (p : Char → Bool) :=
      (c.dropWhile p).skipComment_suffix.trans ((c.drop_suffix _).trans hmark)
    split
    · exact (ih _).trans ((Cursor.takeBreak_suffix _).trans (hblank _))
    · exact hblank _

theorem cursor_of_expirePending (h : s.expirePending = some s') : s'.cursor = s.cursor := by
  obtain ⟨pending, -, h⟩ := Option.bind_eq_some_iff.1 h
  obtain ⟨outer, -, h⟩ := Option.bind_eq_some_iff.1 h
  obtain rfl := Option.some.inj h
  rfl

@[simp] theorem cursor_unindent (column : Int) (s : Scanner) :
    (s.unindent column).cursor = s.cursor := by
  unfold unindent
  split <;> rfl

@[simp] theorem cursor_openBlock (column position : Nat) (t : Token) (s : Scanner) :
    (s.openBlock column position t).cursor = s.cursor := by
  unfold openBlock
  split <;> rfl

theorem cursor_of_dropPending (h : s.dropPending = some s') : s'.cursor = s.cursor := by
  unfold dropPending at h
  split at h
  · cases h
  · obtain rfl := Option.some.inj h
    rfl

theorem cursor_of_setPending (h : s.setPending = some s') : s'.cursor = s.cursor := by
  unfold setPending at h
  split at h
  · obtain ⟨s₁, hdrop, h⟩ := Option.bind_eq_some_iff.1 h
    obtain rfl := Option.some.inj h
    exact (cursor_of_dropPending hdrop : s₁.cursor = s.cursor)
  · obtain rfl := Option.some.inj h
    rfl

theorem inFlow_of_setPending (h : s.setPending = some s') : s'.inFlow = s.inFlow := by
  unfold setPending at h
  split at h
  · obtain ⟨s₁, hdrop, h⟩ := Option.bind_eq_some_iff.1 h
    obtain rfl := Option.some.inj h
    unfold dropPending at hdrop
    split at hdrop
    · cases hdrop
    · obtain rfl := Option.some.inj hdrop
      rfl
  · obtain rfl := Option.some.inj h
    rfl

def Moves (s : Scanner) (x : Option Scanner) : Prop :=
  ∀ s', x = some s' → s'.cursor.rest <:+ s.cursor.rest.tail

theorem moves_directive (s : Scanner) : s.Moves s.directive := by
  intro s' h
  obtain ⟨s₁, hdrop, h⟩ := Option.bind_eq_some_iff.1 h
  obtain ⟨⟨d, c⟩, hscan, h⟩ := Option.bind_eq_some_iff.1 h
  obtain rfl := Option.some.inj h
  have hcursor := (cursor_of_dropPending hdrop).trans (cursor_unindent _ s)
  have hsuffix := (suffix_of_scanDirective hscan).trans (Cursor.drop_succ_suffix _ 0)
  exact hcursor ▸ hsuffix

theorem moves_documentMarker (t : Token) (s : Scanner) : s.Moves (s.documentMarker t) := by
  intro s' h
  obtain ⟨s₁, hdrop, h⟩ := Option.bind_eq_some_iff.1 h
  obtain rfl := Option.some.inj h
  have hcursor := (cursor_of_dropPending hdrop).trans (cursor_unindent _ s)
  exact hcursor ▸ s₁.cursor.drop_succ_suffix 2

theorem moves_openFlow (t : Token) (s : Scanner) : s.Moves (s.openFlow t) := by
  intro s' h
  obtain ⟨s₁, hset, h⟩ := Option.bind_eq_some_iff.1 h
  obtain rfl := Option.some.inj h
  exact cursor_of_setPending hset ▸ s₁.cursor.drop_succ_suffix 0

theorem moves_closeFlow (t : Token) (s : Scanner) : s.Moves (s.closeFlow t) := by
  intro s' h
  obtain ⟨s₁, hdrop, h⟩ := Option.bind_eq_some_iff.1 h
  obtain rfl := Option.some.inj h
  have hcursor := cursor_of_dropPending hdrop
  have hsuffix := s₁.cursor.drop_succ_suffix 0
  rw [hcursor] at hsuffix
  cases houter : s₁.outerPending <;> simpa [houter, advance, allowKey, hcursor] using hsuffix

theorem moves_flowEntry (s : Scanner) : s.Moves s.flowEntry := by
  intro s' h
  obtain ⟨s₁, hdrop, h⟩ := Option.bind_eq_some_iff.1 h
  obtain rfl := Option.some.inj h
  exact cursor_of_dropPending hdrop ▸ s₁.cursor.drop_succ_suffix 0

theorem moves_blockEntry (s : Scanner) : s.Moves s.blockEntry := by
  intro s' h
  unfold blockEntry at h
  split at h
  · cases h
  · obtain ⟨s₁, hdrop, h⟩ := Option.bind_eq_some_iff.1 h
    obtain rfl := Option.some.inj h
    have hcursor := (cursor_of_dropPending hdrop).trans (cursor_openBlock _ _ _ s)
    exact hcursor ▸ s₁.cursor.drop_succ_suffix 0

theorem moves_key (s : Scanner) : s.Moves s.key := by
  intro s' h
  unfold key at h
  split at h
  · cases h
  · obtain ⟨s₁, hdrop, h⟩ := Option.bind_eq_some_iff.1 h
    obtain rfl := Option.some.inj h
    have hcursor := (cursor_of_dropPending hdrop).trans (cursor_openBlock _ _ _ s)
    exact hcursor ▸ s₁.cursor.drop_succ_suffix 0

theorem moves_value (s : Scanner) : s.Moves s.value := by
  intro s' h
  have hsuffix := s.cursor.drop_succ_suffix 0
  unfold value at h
  split at h
  · obtain rfl := Option.some.inj h
    simpa [advance, allowKey, push] using hsuffix
  · split at h
    · cases h
    · obtain rfl := Option.some.inj h
      simpa [advance, allowKey, push, openBlockHere] using hsuffix

theorem moves_link (make : List Char → Token) (s : Scanner) : s.Moves (s.link make) := by
  intro s' h
  obtain ⟨s₁, hset, h⟩ := Option.bind_eq_some_iff.1 h
  obtain ⟨⟨name, c⟩, hscan, h⟩ := Option.bind_eq_some_iff.1 h
  obtain rfl := Option.some.inj h
  have hsuffix := (suffix_of_scanAnchor hscan).trans (Cursor.drop_succ_suffix _ 0)
  exact cursor_of_setPending hset ▸ hsuffix

theorem moves_tag (s : Scanner) : s.Moves s.tag := by
  intro s' h
  obtain ⟨s₁, hset, h⟩ := Option.bind_eq_some_iff.1 h
  obtain ⟨⟨handle, suffix, c⟩, hscan, h⟩ := Option.bind_eq_some_iff.1 h
  obtain rfl := Option.some.inj h
  exact cursor_of_setPending hset ▸ suffix_tail_of_scanTag hscan

theorem moves_blockScalar (style : ScalarStyle) (s : Scanner) : s.Moves (s.blockScalar style) := by
  intro s' h
  obtain ⟨s₁, hdrop, h⟩ := Option.bind_eq_some_iff.1 h
  obtain ⟨r, hscan, h⟩ := Option.bind_eq_some_iff.1 h
  obtain rfl := Option.some.inj h
  have hsuffix := (suffix_of_scanBlock hscan).trans (Cursor.drop_succ_suffix _ 0)
  exact cursor_of_dropPending hdrop ▸ hsuffix

theorem moves_quotedScalar (style : ScalarStyle) (s : Scanner) :
    s.Moves (s.quotedScalar style) := by
  intro s' h
  obtain ⟨s₁, hset, h⟩ := Option.bind_eq_some_iff.1 h
  obtain ⟨r, hscan, h⟩ := Option.bind_eq_some_iff.1 h
  obtain rfl := Option.some.inj h
  have hsuffix := (suffix_of_scanQuoted hscan).trans (Cursor.drop_succ_suffix _ 0)
  exact cursor_of_setPending hset ▸ hsuffix

theorem moves_plainScalar {ch : Char} {behind : List Char} (hrest : s.cursor.rest = ch :: behind)
    (hstart : startsPlain s.inFlow ch behind = true) (hmarker : s.cursor.atDocumentMarker = false) :
    s.Moves s.plainScalar := by
  intro s' h
  obtain ⟨s₁, hset, h⟩ := Option.bind_eq_some_iff.1 h
  obtain ⟨⟨r, broken⟩, hscan, h⟩ := Option.bind_eq_some_iff.1 h
  obtain rfl := Option.some.inj h
  have hcursor := cursor_of_setPending hset
  rw [hcursor, inFlow_of_setPending hset] at hscan
  exact suffix_tail_of_scanPlain hrest hstart hmarker hscan

theorem Moves.ite {p : Prop} [Decidable p] {x y : Option Scanner} (hx : p → s.Moves x)
    (hy : ¬ p → s.Moves y) : s.Moves (if p then x else y) := by
  split
  · exact hx ‹_›
  · exact hy ‹_›

/-- Every token takes a character or more. -/
theorem moves_token {ch : Char} {behind : List Char} (hrest : s.cursor.rest = ch :: behind) :
    s.Moves (s.token ch behind) := by
  refine .ite (fun _ => s.moves_directive) fun _ => ?_
  refine .ite (fun _ => s.moves_documentMarker _) fun hdashes => ?_
  refine .ite (fun _ => s.moves_documentMarker _) fun hdots => ?_
  refine .ite (fun _ => s.moves_openFlow _) fun _ => ?_
  refine .ite (fun _ => s.moves_openFlow _) fun _ => ?_
  refine .ite (fun _ => s.moves_closeFlow _) fun _ => ?_
  refine .ite (fun _ => s.moves_closeFlow _) fun _ => ?_
  refine .ite (fun _ => s.moves_flowEntry) fun _ => ?_
  refine .ite (fun _ => s.moves_blockEntry) fun _ => ?_
  refine .ite (fun _ => s.moves_key) fun _ => ?_
  refine .ite (fun _ => s.moves_value) fun _ => ?_
  refine .ite (fun _ => s.moves_link _) fun _ => ?_
  refine .ite (fun _ => s.moves_link _) fun _ => ?_
  refine .ite (fun _ => s.moves_tag) fun _ => ?_
  refine .ite (fun _ => s.moves_blockScalar _) fun _ => ?_
  refine .ite (fun _ => s.moves_blockScalar _) fun _ => ?_
  refine .ite (fun _ => s.moves_quotedScalar _) fun _ => ?_
  refine .ite (fun _ => s.moves_quotedScalar _) fun _ => ?_
  refine .ite (fun hstart => moves_plainScalar hrest hstart ?_) fun _ => nofun
  simp [Cursor.atDocumentMarker, hdashes, hdots]

theorem run_eq_of_fuel {fuel fuel' : Nat} (h : s.cursor.rest.length < fuel)
    (h' : s.cursor.rest.length < fuel') : run fuel s = run fuel' s := by
  induction fuel generalizing s fuel' with
  | zero => omega
  | succ fuel ih =>
    obtain ⟨fuel', rfl⟩ := Nat.exists_eq_add_one_of_ne_zero (Nat.ne_zero_of_lt h')
    rw [run, run]
    apply Option.bind_congr
    intro s₁ hexpire
    have hle := (s.skipBlank_suffix (s.cursor.rest.length + 1)).length_le
    rw [← cursor_of_expirePending hexpire, ← cursor_unindent s₁.cursor.column s₁] at hle
    dsimp only
    split
    · rfl
    · next ch behind hrest =>
      apply Option.bind_congr
      intro s₂ htoken
      have hlt := (moves_token hrest s₂ htoken).length_le
      rw [hrest, List.tail_cons] at hlt
      rw [hrest, List.length_cons] at hle
      exact ih (by omega) (by omega)

end Scanner

end RateSweep.Yaml
