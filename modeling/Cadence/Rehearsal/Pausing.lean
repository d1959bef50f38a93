import Cadence.Rehearsal.Reply

/-!
# Rehearsals of a pause

Runs a pause session against collaborators that follow scripts: the n-th call of
a kind runs the n-th script given for it. Every call is written down.
-/

namespace Cadence.Rehearsal.Pausing

open Cadence.Pause

inductive Step
  | pause (sources : List SourceId) (grace : Span)
  | pauseAll (grace : Span)
  | ended (source : SourceId)
  | shutdown (source : SourceId)
  | observing (source : SourceId)
  | state
  | paused
  | setRoots (sources : List SourceId)
  | describe
  | letGo
  | travel (travel : Travel)
deriving Inhabited

/-- The scripts of the collaborators. -/
structure Scripts where
  acquire : List (List Step) := []
  release : List (List Step) := []
  observe : List (List Step) := []
  unobserve : List (List Step) := []
  allSources : List (List Step) := []

/-- Something written down: a call, or the reply of a step inside a call. -/
inductive Mark
  | call (call : Call)
  | nested (step : Step) (reply : Reply)

/-- A script under way: the step that has begun and those after it. -/
structure Cue where
  nested : Bool
  begun : Option Step := none
  rest : List Step

/-- A session and its collaborators. `knowsSources` says whether the signaller
can list its sources. -/
structure Stage (σ δ : Type) where
  session : Session σ δ
  roots : List SourceId
  knowsSources : Bool
  scripts : Scripts
  cues : List Cue := []
  signal : Signal := .quiet
  marks : List Mark := []
  events : List Event := []
  reply : Reply := .nothing

namespace Stage

variable {σ δ : Type} [Timeline σ δ Alarm]

/-- Takes in the outcome of a move. -/
def absorb (w : Stage σ δ) (out : Outcome σ δ) : Stage σ δ :=
  { w with session := out.session, signal := out.signal, events := w.events ++ out.events }

def move (w : Stage σ δ) (m : Move) : Stage σ δ := w.absorb (w.session.perform m)

/-- Hands a reply to the script whose step it answers. -/
def deliver (w : Stage σ δ) (reply : Reply) : Stage σ δ :=
  let w := { w with signal := .quiet }
  match w.cues with
  | cue :: rest =>
      let w := { w with cues := { cue with begun := none } :: rest }
      match cue.nested, cue.begun with
      | true, some step => { w with marks := w.marks ++ [.nested step reply] }
      | _, _ => { w with reply }
  | [] => { w with reply }

def replyOf : Answer → Reply
  | .done => .nothing
  | .gone => .gone
  | .dropped existed => .flag existed
  | .arrived arrival => .ofArrival arrival

/-- Writes a call down and begins its script. -/
def enter (w : Stage σ δ) (call : Call) (script : List Step) (scripts : Scripts) : Stage σ δ :=
  { w with
    signal := .quiet
    scripts
    marks := w.marks ++ [.call call]
    cues := { nested := true, rest := script } :: w.cues }

def called (w : Stage σ δ) (call : Call) : Stage σ δ :=
  match call with
  | .acquire =>
      let (script, rest) := takeScript w.scripts.acquire
      w.enter call script { w.scripts with acquire := rest }
  | .release =>
      let (script, rest) := takeScript w.scripts.release
      w.enter call script { w.scripts with release := rest }
  | .observe _ =>
      let (script, rest) := takeScript w.scripts.observe
      w.enter call script { w.scripts with observe := rest }
  | .unobserve _ =>
      let (script, rest) := takeScript w.scripts.unobserve
      w.enter call script { w.scripts with unobserve := rest }
  | .allSources =>
      if w.knowsSources then
        let (script, rest) := takeScript w.scripts.allSources
        w.enter call script { w.scripts with allSources := rest }
      else w.move (.resume [])

/-- Answers a question about a coordinator that is still there. -/
def query (w : Stage σ δ) (answer : Coordinator → Reply) : Stage σ δ :=
  w.deliver (if w.session.standing = .owned then answer w.session.coordinator else .gone)

def perform (w : Stage σ δ) : Step → Stage σ δ
  | .pause sources grace => w.move (.pause sources grace)
  | .pauseAll grace => w.move (.pauseAll grace)
  | .ended source | .shutdown source => w.move (.finish source)
  | .observing source => w.query fun c => .flag (source ∈ c.observed)
  | .state => w.query fun c => .status c.status
  | .paused => w.query fun c => .flag c.held
  | .describe => w.query fun c => .text c.describe
  | .setRoots sources => { w with roots := sources }.deliver .nothing
  | .letGo => w.move .letGo
  | .travel t => w.move (.travel t)

def drives (w : Stage σ δ) : Bool :=
  match w.session.frames with
  | .travelling _ :: _ => true
  | _ => false

def tick (w : Stage σ δ) : Option (Stage σ δ) :=
  match w.signal with
  | .called call => some (w.called call)
  | .answered answer => some (w.deliver (replyOf answer))
  | .quiet =>
      if w.drives then some (w.move .proceed)
      else match w.cues with
        | [] => none
        | cue :: rest =>
            match cue.rest with
            | step :: later =>
                some ({ w with
                  cues := { cue with begun := some step, rest := later } :: rest }.perform step)
            | [] =>
                let w := { w with cues := rest }
                some (if cue.nested then w.move (.resume w.roots) else w)

def run : Nat → Stage σ δ → Stage σ δ
  | 0, w => w
  | fuel + 1, w =>
      match w.tick with
      | some w => run fuel w
      | none => w

def play (w : Stage σ δ) (step : Step) : Stage σ δ :=
  { w with marks := [], events := [], reply := .nothing,
           cues := [{ nested := false, rest := [step] }] }.run budget

def playAll (w : Stage σ δ) : List Step → List (Stage σ δ)
  | [] => []
  | step :: rest =>
      let w := w.play step
      w :: playAll w rest

end Stage

end Cadence.Rehearsal.Pausing
