import Gloss.Documentor
import Gloss.Proofs.Cache.Values
import Gloss.Proofs.Comment.Render

/-!
# Comments that a model gives

A reply is kept only if its block reads as a comment that may be put in front of a
declaration (`usable_of_accept`), and callers get nothing but such blocks, whatever
the model answers and in whatever order the callers and their generations come
(`calls_usable`). So a caller that asks for a comment fails only if the generation
does, and one that asks for the text of the block, with any indent, gets a text that
reads as that comment (`read_indentBlock`).
-/

namespace Gloss

open Gloss.Text Comment
open Gloss.Generation (Generator Target accept extractBlock isDocLine)

/-! ## Blocks -/

/-- A text of documentation lines that neither end in blanks nor are empty. -/
def IsBlock (block : String) : Prop :=
  ∃ ls : List (List Char), block.toList = joinLines ls ∧
    ∀ l ∈ ls, IsLine l ∧ isBlankText l = false

theorem isBlankText_of_isDocLine {l : List Char} (h : isDocLine l = true) :
    isBlankText l = false := by
  obtain ⟨rest, rfl⟩ := List.isPrefixOf_iff_prefix.1 h
  rw [isBlankText_append]
  rfl

/-- The lines taken out of a reply are a block. -/
theorem isBlock_of_extractBlock {raw block : String} (h : extractBlock raw = some block) :
    IsBlock block := by
  rw [extractBlock] at h
  split at h
  · cases h
    refine ⟨_, String.toList_ofList, fun l hl => ?_⟩
    have hdoc : isDocLine l = true := List.all_eq_true.1 List.all_takeWhile l hl
    obtain ⟨line, hline, rfl⟩ :=
      List.mem_map.1 ((List.dropWhile_sublist _).subset ((List.takeWhile_sublist _).subset hl))
    refine ⟨isLine_of_trimEnd (not_mem_trim (not_mem_of_mem_lines hline)) ?_,
      isBlankText_of_isDocLine hdoc⟩
    rw [trim, trimEnd_trimEnd]
  · cases h

section

variable {indent : List Char} {l : List Char} {ls : List (List Char)}

theorem isLine_indent (hindent : '\n' ∉ indent) (hl : IsLine l) (hne : isBlankText l = false) :
    IsLine (indent ++ l) := by
  have hl' : l ≠ [] := by
    rintro rfl
    cases hne
  refine ⟨by simp [hindent, hl.1], ?_⟩
  rw [List.getLast?_append_of_ne_nil _ hl']
  exact hl.2

/-- What a row of lines reads as does not depend on blanks in front of them. -/
theorem lineContents_map_indent (hblank : isBlankText indent = true) (ls : List (List Char)) :
    lineContents (ls.map fun l => String.ofList (indent ++ l)) =
      lineContents (ls.map String.ofList) := by
  induction ls with
  | nil => rfl
  | cons l ls ih =>
    have hline : lineContent (String.ofList (indent ++ l)) = lineContent (String.ofList l) := by
      simp only [lineContent, String.toList_ofList, trimStart_append_of_blank hblank]
    rw [List.map_cons, List.map_cons, lineContents, lineContents, hline, ih]

theorem linesOf_joinLines {text : String} (htext : text.toList = joinLines ls)
    (hls : ∀ l ∈ ls, IsLine l ∧ isBlankText l = false) : linesOf text = ls.map String.ofList := by
  have hlast : ls.getLast? ≠ some [] := by
    intro hnil
    cases (hls [] (List.mem_of_getLast? hnil)).2
  rw [linesOf, htext, lines_joinLines (fun l hl => (hls l hl).1) hlast]

/-- Reading a text whose lines are not blank is reading all its lines. -/
theorem read_joinLines {text : String} (htext : text.toList = joinLines ls)
    (hls : ∀ l ∈ ls, IsLine l ∧ isBlankText l = false) :
    Comment.read text = readLines (ls.map String.ofList) := by
  rw [Comment.read, linesOf_joinLines htext hls, List.filter_eq_self.2]
  intro line hline
  obtain ⟨l, hl, rfl⟩ := List.mem_map.1 hline
  simp [(hls l hl).2]

end

/-- A block reads the same with its lines indented by any blanks. -/
theorem read_indentBlock {block indent : String} (h : IsBlock block)
    (hblank : isBlankText indent.toList = true) (hindent : '\n' ∉ indent.toList) :
    Comment.read (indentBlock indent block) = Comment.read block := by
  obtain ⟨ls, hblock, hls⟩ := h
  have hlines := linesOf_joinLines hblock hls
  cases ls with
  | nil =>
    have hempty : block = "" := String.toList_eq_nil_iff.1 hblock
    rw [indentBlock, hlines, hempty]
    rfl
  | cons l ls =>
    have hrest : ∀ k ∈ ls.map (indent.toList ++ ·), IsLine k ∧ isBlankText k = false := by
      intro k hk
      obtain ⟨m, hm, rfl⟩ := List.mem_map.1 hk
      obtain ⟨hline, hne⟩ := hls m (List.mem_cons_of_mem l hm)
      exact ⟨isLine_indent hindent hline hne, by rw [isBlankText_append, hne, Bool.and_false]⟩
    have htext : (indentBlock indent block).toList =
        joinLines (l :: ls.map (indent.toList ++ ·)) := by
      rw [indentBlock, hlines, String.toList_intercalate, String.toList_append,
        ← intercalate_indent]
      simp [Function.comp_def]
    rw [read_joinLines htext (List.forall_mem_cons.2 ⟨hls l (by simp), hrest⟩),
      read_joinLines hblock hls]
    have hcontents : lineContents ((l :: ls.map (indent.toList ++ ·)).map String.ofList) =
        lineContents ((l :: ls).map String.ofList) := by
      rw [List.map_cons, List.map_map, List.map_cons, lineContents, lineContents]
      rw [← lineContents_map_indent hblank ls]
      rfl
    rw [readLines, readLines, hcontents]

/-! ## Replies -/

/-- A block that may be put in front of a declaration as it is. -/
def Insertable (block : String) : Prop :=
  ∃ comment, Comment.read block = .ok comment ∧ comment.validateInsertable = .ok ()

/-- What is kept of a reply. -/
structure Usable (block : String) : Prop where
  isBlock : IsBlock block
  insertable : Insertable block

theorem usable_of_accept {raw block : String} (h : accept raw = .ok block) : Usable block := by
  rw [accept] at h
  split at h
  · cases h
  split at h
  · cases h
  rename_i found hfound
  split at h
  · cases h
  rename_i hok
  cases h
  obtain ⟨comment, hread, hinsertable⟩ := ok_of_bind hok
  exact ⟨isBlock_of_extractBlock hfound, comment, hread, hinsertable⟩

theorem usable_of_request {g : Generator} {timeout : Nat} {target : Target}
    {source block : String} (h : (Generation.request g timeout target source).outcome = .ok block) :
    Usable block := by
  rw [Generation.request] at h
  split at h
  · obtain ⟨raw, -, haccept⟩ := ok_of_bind h
    exact usable_of_accept haccept
  · cases h

/-! ## Answers -/

theorem commentOfBlock_eq_ok_iff {block : String} {comment : Comment} :
    Documentor.commentOfBlock block = .ok comment ↔
      Comment.read block = .ok comment ∧ comment.validateInsertable = .ok () := by
  unfold Documentor.commentOfBlock
  split
  · rename_i fault hread
    simp [hread]
  · rename_i found hread
    rw [hread]
    split
    · rename_i fault hinvalid
      refine ⟨fun h => by (cases h), fun h => ?_⟩
      obtain rfl := Except.ok.inj h.1
      cases hinvalid.symm.trans h.2
    · rename_i hvalid
      refine ⟨fun h => ?_, fun h => congrArg Except.ok (Except.ok.inj h.1)⟩
      obtain rfl := Except.ok.inj h
      exact ⟨rfl, hvalid⟩

theorem commentOfAnswer_eq_ok_iff (block : String) (hit : Bool) (comment : Comment)
    (origin : Origin) :
    Documentor.commentOfAnswer (.ok (block, hit)) = .ok (comment, origin) ↔
      Documentor.commentOfBlock block = .ok comment ∧ origin = if hit then .cache else .llm := by
  rw [Documentor.commentOfAnswer]
  cases Documentor.commentOfBlock block with
  | error e => simp [Except.map]
  | ok found => simp [Except.map, eq_comm]

/-- What fails, if at all, because a generation has failed. -/
def FailsByGeneration {α : Type} (x : Except DocError α) : Prop :=
  ∀ e, x = .error e → ∃ failure, e = .generation failure

theorem failsByGeneration_blockOfAnswer (indent : String) (result : Cache.Result) :
    FailsByGeneration (Documentor.blockOfAnswer indent result) := by
  intro e herror
  match result with
  | .error failure =>
    cases herror
    exact ⟨failure, rfl⟩
  | .ok (block, hit) => cases herror

/-- An answer that is a failure of the generation or a usable block. -/
def Sound (result : Cache.Result) : Prop :=
  ∀ block hit, result = .ok (block, hit) → Usable block

namespace Sound

variable {result : Cache.Result} {indent : String}

theorem failsByGeneration (h : Sound result) :
    FailsByGeneration (Documentor.commentOfAnswer result) := by
  intro e herror
  match result with
  | .error failure =>
    cases herror
    exact ⟨failure, rfl⟩
  | .ok (block, hit) =>
    obtain ⟨comment, hcomment⟩ := (h block hit rfl).insertable
    have hok := (commentOfAnswer_eq_ok_iff block hit comment _).2
      ⟨commentOfBlock_eq_ok_iff.2 hcomment, rfl⟩
    cases herror.symm.trans hok

/-- The comment of a block is what its text reads as, with any indent. -/
theorem read_blockOfAnswer {block : String} {hit : Bool} (h : Sound (.ok (block, hit)))
    (hblank : isBlankText indent.toList = true) (hindent : '\n' ∉ indent.toList) (hit' : Bool) :
    ∃ shown comment, Documentor.blockOfAnswer indent (.ok (block, hit)) = .ok shown ∧
      Comment.read shown = .ok comment ∧
      Documentor.commentOfAnswer (.ok (block, hit')) =
        .ok (comment, if hit' then .cache else .llm) := by
  obtain ⟨hblock, comment, hread, hok⟩ := h block hit rfl
  exact ⟨_, comment, rfl, (read_indentBlock hblock hblank hindent).trans hread,
    (commentOfAnswer_eq_ok_iff block hit' comment _).2
      ⟨commentOfBlock_eq_ok_iff.2 ⟨hread, hok⟩, rfl⟩⟩

end Sound

/-! ## Calls -/

/-- A call for the comment of a source text, with the model as it is when it is asked. -/
structure Inquiry where
  model : Model
  target : Target
  source : String

namespace Inquiry

open Cache (AllValues)
open Cache.Calls (Reaches)

/-- What a call wants of the cache. -/
def request (q : Inquiry) : Cache.Request :=
  ⟨Generation.cacheKey q.source,
    Generation.request q.model.generator q.model.timeout q.target q.source⟩

/-- The requests of calls. -/
def jobs (inquiries : List Inquiry) : List (Option Cache.Request) :=
  inquiries.map fun q => some q.request

/-- The callers before they call. -/
def callers (clock : Cache.Clock) (inquiries : List Inquiry) : Cache.Calls :=
  (Cache.Schedule.initial clock.cache clock.now (jobs inquiries)).calls

/-- A cache that was empty at first and has only been used by calls, with any events in
between. -/
inductive Filled : Cache → Prop where
  | empty {cache : Cache} (h : cache.entries = []) : Filled cache
  | calls {clock : Cache.Clock} (h : Filled clock.cache) {inquiries : List Inquiry}
      {calls : Cache.Calls} (hcalls : Reaches (jobs inquiries) (callers clock inquiries) calls) :
      Filled calls.cache
  | purge {cache : Cache} (h : Filled cache) (now : Nat) : Filled (cache.purge now)

variable {clock : Cache.Clock} {inquiries : List Inquiry} {calls : Cache.Calls}

theorem bears_of_usable (hcache : clock.cache.AllValues fun _ => Usable)
    (h : Reaches (jobs inquiries) (callers clock inquiries) calls) :
    calls.Bears fun _ => Usable := by
  refine (Cache.Calls.serves_of_reaches (fun i r hr value hvalue => ?_) hcache h).toBears
  rw [jobs, List.getElem?_map] at hr
  obtain ⟨q, -, hq⟩ := Option.map_eq_some_iff.1 (Option.join_eq_some_iff.1 hr)
  cases hq
  exact usable_of_request hvalue

theorem Filled.usable {cache : Cache} (h : Filled cache) : cache.AllValues fun _ => Usable := by
  induction h with
  | empty h => exact Cache.allValues_of_empty h
  | calls _ hcalls ih => exact (bears_of_usable ih hcalls).held
  | purge _ now ih => exact ih.purge now

theorem Filled.sound (hcache : Filled clock.cache)
    (h : Reaches (jobs inquiries) (callers clock inquiries) calls) {i : Nat}
    {result : Cache.Result} (hresult : calls.result? i = some result) : Sound result := by
  rintro block hit rfl
  exact (bears_of_usable hcache.usable h).got i block hit hresult

/-- Asking a model is a call of its own, and gets an answer. -/
theorem result?_block (model : Model) (clock : Cache.Clock) (target : Target) (source : String) :
    (Cache.Schedule.run clock.cache clock.now 1 (jobs [⟨model, target, source⟩])).result? 0 =
      some (model.block clock target source).value := by
  let q : Inquiry := ⟨model, target, source⟩
  let s := Cache.Schedule.run clock.cache clock.now 1 (jobs [q])
  have hasked : (jobs [q])[0]?.join ≠ none := by simp [jobs]
  obtain ⟨result, hresult⟩ := Cache.Schedule.finished_run clock.cache clock.now 1 hasked
  have hgot : s.result? 0 = some result := Cache.Calls.result?_eq_some_iff.2 hresult
  show s.result? 0 = some ((s.result? 0).getD _)
  rw [hgot, Option.getD_some]

theorem Filled.block (hcache : Filled clock.cache) (model : Model) (target : Target)
    (source : String) :
    Filled (model.block clock target source).clock.cache ∧
      Sound (model.block clock target source).value := by
  have hcalls : Reaches (jobs [⟨model, target, source⟩]) (callers clock [⟨model, target, source⟩])
      (Cache.Schedule.run clock.cache clock.now 1 (jobs [⟨model, target, source⟩])).calls :=
    Cache.Schedule.reaches_run _ _ _ _
  exact ⟨.calls hcache hcalls, hcache.sound hcalls (result?_block model clock target source)⟩

end Inquiry

open Cache.Calls (Reaches) in
open Documentor (blockOfAnswer commentOfAnswer) in
/-- Calls for comments keep only blocks that can be inserted as they are. They fail only
if the generation does, and the text that one call gets of a block, with any indent, reads
as the comment that any call gets of it. So it is at any time, whatever models answer to
calls that come together (`Reaches`), and for calls that come one after the other. -/
theorem calls_usable {clock : Cache.Clock} (hcache : Inquiry.Filled clock.cache) :
    (∀ inquiries calls, Reaches (Inquiry.jobs inquiries) (Inquiry.callers clock inquiries) calls →
      (∀ p ∈ calls.cache.entries, Insertable p.2.value) ∧
      (∀ i result, calls.result? i = some result →
        (∀ indent, FailsByGeneration (blockOfAnswer indent result)) ∧
        FailsByGeneration (commentOfAnswer result)) ∧
      ∀ i j block hit hit', calls.result? i = some (.ok (block, hit)) →
        calls.result? j = some (.ok (block, hit')) →
        ∀ indent : String, isBlankText indent.toList = true → '\n' ∉ indent.toList →
          ∃ shown comment, blockOfAnswer indent (.ok (block, hit)) = .ok shown ∧
            Comment.read shown = .ok comment ∧
            commentOfAnswer (.ok (block, hit')) = .ok (comment, if hit' then .cache else .llm)) ∧
    ∀ (model : Model) (target : Target) (source indent : String),
      Inquiry.Filled (model.generate clock target source indent).clock.cache ∧
      FailsByGeneration (model.generate clock target source indent).value ∧
      FailsByGeneration (model.generateComment clock target source).value ∧
      (isBlankText indent.toList = true → '\n' ∉ indent.toList →
        ((model.generate clock target source indent).value.bind fun shown =>
            (Comment.read shown).mapError .malformed) =
          (model.generateComment clock target source).value.map Prod.fst) := by
  refine ⟨fun inquiries calls hcalls => ⟨fun p hp => ?_, fun i result hresult => ?_,
    fun i j block hit hit' hi _ indent hblank hindent => ?_⟩,
    fun model target source indent => ?_⟩
  · exact ((Inquiry.Filled.calls hcache hcalls).usable p hp).insertable
  · exact ⟨fun indent => failsByGeneration_blockOfAnswer indent result,
      (hcache.sound hcalls hresult).failsByGeneration⟩
  · exact (hcache.sound hcalls hi).read_blockOfAnswer hblank hindent hit'
  · obtain ⟨hfilled, hsound⟩ := hcache.block model target source
    refine ⟨hfilled, failsByGeneration_blockOfAnswer indent _, hsound.failsByGeneration,
      fun hblank hindent => ?_⟩
    show (blockOfAnswer indent (model.block clock target source).value).bind _ =
      (commentOfAnswer (model.block clock target source).value).map Prod.fst
    match hresult : (model.block clock target source).value with
    | .error failure => rfl
    | .ok (block, hit) =>
      rw [hresult] at hsound
      obtain ⟨shown, comment, hshown, hread, hcomment⟩ :=
        hsound.read_blockOfAnswer hblank hindent hit
      rw [hshown, hcomment]
      show (Comment.read shown).mapError DocError.malformed = .ok comment
      rw [hread]
      rfl

/-- A model that gives one reply to all. -/
def talkative : Model where
  generator := { answer := fun _ _ => ⟨20, .ok "Sure!\n  /// <summary>One.</summary> \n  class A"⟩ }

theorem calls_usable_twice :
    Inquiry.Filled {} ∧ ∃ calls : Cache.Calls,
      calls.result? 0 = some (.ok ("/// <summary>One.</summary>", false)) ∧
      calls.result? 1 = some (.ok ("/// <summary>One.</summary>", true)) ∧
      ∃ shown comment,
        Documentor.blockOfAnswer "\t " (.ok ("/// <summary>One.</summary>", false)) = .ok shown ∧
        Comment.read shown = .ok comment ∧
        Documentor.commentOfAnswer (.ok ("/// <summary>One.</summary>", true)) =
          .ok (comment, .cache) := by
  have hfilled : Inquiry.Filled {} := .empty rfl
  let inquiry : Inquiry := ⟨talkative, .classType, "class A;"⟩
  let twice := [inquiry, inquiry]
  let s := Cache.Schedule.run {} 0 2 (Inquiry.jobs twice)
  have hmiss : s.calls.result? 0 = some (.ok ("/// <summary>One.</summary>", false)) := by
    decide +kernel
  have hhit : s.calls.result? 1 = some (.ok ("/// <summary>One.</summary>", true)) := by
    decide +kernel
  have hall := (@calls_usable ⟨0, {}⟩ hfilled).1 twice s.calls
    (Cache.Schedule.reaches_run _ _ _ _)
  exact ⟨hfilled, s.calls, hmiss, hhit,
    hall.2.2 0 1 _ false true hmiss hhit "\t " (by decide) (by decide)⟩

end Gloss
