import Gloss.Cache.Schedule
import Gloss.Source.Unit
import Gloss.Template

/-!
# Documenting declarations

A declaration that needs a comment gets one from its template, or, for the kinds
that are routed there, from a model. `document` says what comes of a declaration
once the answer of the model is known; `documentUnit` works on all declarations
of a source unit and applies what came of them.
-/

namespace Gloss

open Gloss.Generation (Failure Generator Target)

/-- How declarations are documented. -/
structure DocumentorOptions where
  /-- The kinds for which the model is asked. -/
  llmKinds : List Declaration.Kind := [.classType, .method]
  /-- Whether the template stands in when the model fails. -/
  fallbackToHeuristic : Bool := false
  scan : ScanOptions := {}
  /-- How many declarations are worked on at a time. -/
  concurrency : Nat := 4
  deriving DecidableEq, Repr, Inhabited

/-- Where a comment came from. -/
inductive Origin where
  | heuristic
  | llm
  | cache
  deriving DecidableEq, Repr

/-- The name of an origin. -/
def Origin.label : Origin → String
  | heuristic => "Heuristic"
  | llm => "Llm"
  | cache => "Cache"

/-- A declaration that got a comment. -/
structure Documented where
  patched : Patched
  origin : Origin
  deriving Repr

/-- What comes of a declaration; none if it needs no comment. -/
abbrev Outcome : Type := Except DocError (Option Documented)

/-- A model that can be asked. -/
structure Model where
  generator : Generator
  /-- How long an answer may take, in milliseconds. -/
  timeout : Nat := 60000

/-- All that documenting needs. -/
structure Documentor where
  options : DocumentorOptions := {}
  templates : Registry := {}
  model : Option Model := none

namespace Documentor

/-! ## One declaration -/

/-- The model and the target for a declaration that is routed there. -/
def route (doc : Documentor) (d : Declaration) : Option (Model × Target) :=
  doc.model.bind fun model =>
    if doc.options.llmKinds.contains d.kind then (Target.ofKind d.kind).map (model, ·) else none

/-- The comment in the block that a model gave. -/
def commentOfBlock (block : String) : Except DocError Comment :=
  match Comment.read block with
  | .error fault => .error (.malformed fault)
  | .ok comment =>
    match comment.validateInsertable with
    | .error fault => .error (.malformed fault)
    | .ok () => .ok comment

/-- The comment that a model's answer holds, and where it came from. -/
def commentOfAnswer : Cache.Result → Except DocError (Comment × Origin)
  | .error failure => .error (.generation failure)
  | .ok (block, hit) => (commentOfBlock block).map (·, if hit then .cache else .llm)

/-- The comment for a declaration; `answer` is what the model gave if it was
asked. -/
def synthesize (doc : Documentor) (d : Declaration) (answer : Option Cache.Result) :
    Except DocError (Comment × Origin) :=
  match answer.map commentOfAnswer with
  | some (.ok found) => .ok found
  | some (.error e) =>
    if doc.options.fallbackToHeuristic then (doc.templates.build d).map (·, .heuristic)
    else .error e
  | none => (doc.templates.build d).map (·, .heuristic)

/-- What comes of a declaration; `answer` is what the model gave if it was asked. -/
def document (doc : Documentor) (d : Declaration) (answer : Option Cache.Result) : Outcome :=
  if d.shouldDocument doc.options.scan then
    match doc.synthesize d answer with
    | .error e => .error e
    | .ok (comment, origin) => (d.patch comment).map fun patched => some ⟨patched, origin⟩
  else .ok none

/-- The question for a declaration, if the model is asked for it. -/
def request (doc : Documentor) (d : Declaration) : Option Cache.Request :=
  if d.shouldDocument doc.options.scan then
    (doc.route d).map fun (model, target) =>
      ⟨Generation.cacheKey d.sourceText,
        Generation.request model.generator model.timeout target d.sourceText⟩
  else none

/-! ## What is logged -/

/-- What is logged when an answer has come. -/
def answerLog (target : Target) : Cache.Result → List Log.Entry
  | .ok (_, hit) =>
    [⟨.debug, "generated comment block", [("target", target.noun), ("cache_hit", toString hit)]⟩]
  | .error _ => []

/-- What is logged when a declaration is done. -/
def outcomeLog (doc : Documentor) (d : Declaration) (answer : Option Cache.Result) :
    List Log.Entry :=
  let answered := match answer, doc.route d with
    | some result, some (_, target) => answerLog target result
    | _, _ => []
  let fallback := match answer.map commentOfAnswer with
    | some (.error e) =>
      if doc.options.fallbackToHeuristic then
        [⟨.warn, "LLM generation failed, using heuristic template",
          [("name", d.name), ("error", e.message)]⟩]
      else []
    | _ => []
  let documented := match doc.document d answer with
    | .ok (some done) =>
      [⟨.debug, "documented declaration",
        [("name", d.name), ("kind", d.kind.label), ("source", done.origin.label)]⟩]
    | _ => []
  answered ++ fallback ++ documented

/-- What is logged with each question. -/
def announcement (doc : Documentor) : List Log.Entry :=
  (doc.model.map fun model => model.generator.announcement).getD []

/-- What is logged when something happens to one of several declarations. -/
def markLog (doc : Documentor) (ds : List Declaration) (schedule : Cache.Schedule) :
    Cache.Mark → List Log.Entry
  | .started i => (ds[i]?.map (·.scanLog doc.options.scan)).getD []
  | .asked _ => doc.announcement
  | .ended i =>
    match ds[i]? with
    | some d =>
      if d.shouldDocument doc.options.scan then doc.outcomeLog d (schedule.result? i) else []
    | none => []

/-! ## Several declarations -/

/-- The work on some declarations. -/
def schedule (doc : Documentor) (clock : Cache.Clock) (ds : List Declaration) : Cache.Schedule :=
  Cache.Schedule.run clock.cache clock.now doc.options.concurrency (ds.map doc.request)

/-- What comes of declarations, each with the answer for its place. -/
def outcomesFrom (doc : Documentor) (answer : Nat → Option Cache.Result) (i : Nat) :
    List Declaration → List Outcome
  | [] => []
  | d :: ds => doc.document d (answer i) :: outcomesFrom doc answer (i + 1) ds

/-- What comes of declarations under a schedule. -/
def outcomes (doc : Documentor) (s : Cache.Schedule) (ds : List Declaration) : List Outcome :=
  doc.outcomesFrom s.result? 0 ds

/-- What is logged while declarations are worked on. -/
def scheduleLog (doc : Documentor) (s : Cache.Schedule) (ds : List Declaration) :
    List Log.Entry :=
  s.marks.flatMap (doc.markLog ds s)

end Documentor

/-! ## Source units -/

/-- What came of the declarations of a source unit. -/
structure UnitReport where
  unit : SourceUnit
  outcomes : List (Declaration × Outcome)

namespace UnitReport

/-- The patches of the declarations that got a comment, in order. -/
def patches (report : UnitReport) : List Patched :=
  report.outcomes.filterMap fun
    | (_, .ok (some done)) => some done.patched
    | _ => none

/-- The text with the comments put in. -/
def text (report : UnitReport) : String :=
  report.unit.apply report.patches

/-- How many declarations got a comment. -/
def documented (report : UnitReport) : Nat :=
  report.patches.length

/-- How many declarations need no comment. -/
def skipped (report : UnitReport) : Nat :=
  report.outcomes.countP fun
    | (_, .ok none) => true
    | _ => false

/-- The declarations that could not be documented, and why. -/
def failures (report : UnitReport) : List (Declaration × DocError) :=
  report.outcomes.filterMap fun
    | (d, .error e) => some (d, e)
    | _ => none

/-- How many declarations could not be documented. -/
def failed (report : UnitReport) : Nat :=
  report.failures.length

/-- Whether the text has changed. -/
def changed (report : UnitReport) : Bool :=
  report.documented > 0

/-- What is logged of a report. -/
def log (report : UnitReport) : List Log.Entry :=
  report.failures.map (fun (d, e) =>
    ⟨.warn, "failed to document declaration",
      [("name", d.name), ("kind", d.kind.label), ("line", toString d.line),
        ("error", e.message)]⟩) ++
    [⟨.info, "documented source unit",
      [("documented", toString report.documented), ("skipped", toString report.skipped),
        ("failed", toString report.failed)]⟩] ++
    report.unit.applyLog report.patches

end UnitReport

/-- What is left when declarations have been worked on. -/
structure Documentor.Run (α : Type) where
  value : α
  clock : Cache.Clock
  /-- The declarations for which the model was asked, by place. -/
  asked : List Nat := []
  log : List Log.Entry := []

/-- The places of the jobs for which a generation was begun, in order. -/
def Cache.Schedule.askedJobs (s : Cache.Schedule) : List Nat :=
  s.marks.filterMap fun
    | .asked i => some i
    | _ => none

/-- Documents one declaration. -/
def Documentor.documentOne (doc : Documentor) (clock : Cache.Clock) (d : Declaration) :
    Documentor.Run Outcome :=
  let s := doc.schedule clock [d]
  { value := doc.document d (s.result? 0)
    clock := ⟨s.calls.now, s.calls.cache⟩
    asked := s.askedJobs
    log := doc.scheduleLog s [d] }

/-- Documents all declarations of a source unit. -/
def Documentor.documentUnit (doc : Documentor) (clock : Cache.Clock) (unit : SourceUnit) :
    Documentor.Run UnitReport :=
  let s := doc.schedule clock unit.declarations
  let report : UnitReport :=
    ⟨unit, unit.declarations.zip (doc.outcomes s unit.declarations)⟩
  { value := report
    clock := ⟨s.calls.now, s.calls.cache⟩
    asked := s.askedJobs
    log := doc.scheduleLog s unit.declarations ++ report.log }

/-! ## Blocks -/

/-- Asks a model for the comment block of a source text. -/
def Model.block (model : Model) (clock : Cache.Clock) (target : Target) (source : String) :
    Documentor.Run Cache.Result :=
  let request : Cache.Request :=
    ⟨Generation.cacheKey source,
      Generation.request model.generator model.timeout target source⟩
  let s := Cache.Schedule.run clock.cache clock.now 1 [some request]
  let result := (s.result? 0).getD (.error .emptyReply)
  { value := result
    clock := ⟨s.calls.now, s.calls.cache⟩
    asked := s.askedJobs
    log := s.askedJobs.flatMap (fun _ => model.generator.announcement) ++
      Documentor.answerLog target result }

/-- A block with its lines but the first indented. -/
def indentBlock (indent block : String) : String :=
  ("\n" ++ indent).intercalate (Text.linesOf block)

/-- The block in a model's answer, indented for insertion. -/
def Documentor.blockOfAnswer (indent : String) : Cache.Result → Except DocError String
  | .error failure => .error (.generation failure)
  | .ok (block, _) => .ok (indentBlock indent block)

/-- A run with something else made of its value. -/
def Documentor.Run.map {α β : Type} (f : α → β) (run : Documentor.Run α) : Documentor.Run β :=
  { value := f run.value, clock := run.clock, asked := run.asked, log := run.log }

/-- Asks a model for the comment block of a source text, indented for insertion. -/
def Model.generate (model : Model) (clock : Cache.Clock) (target : Target)
    (source indent : String) : Documentor.Run (Except DocError String) :=
  (model.block clock target source).map (Documentor.blockOfAnswer indent)

/-- Asks a model for the comment of a source text. -/
def Model.generateComment (model : Model) (clock : Cache.Clock) (target : Target)
    (source : String) : Documentor.Run (Except DocError (Comment × Origin)) :=
  (model.block clock target source).map Documentor.commentOfAnswer

end Gloss
