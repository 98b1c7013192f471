import WorkerPool.Scenario.Answer
import WorkerPool.Scenario.World

namespace WorkerPool.Scenario

inductive Reply where
  | answer (v : Value)
  | wait (wait : Wait) (timeout : Option Duration)
  -- The thread has more to do before there is an answer.
  | enter (frames : List Frame) (control : Control)

def Reply.start (work : Work) (frame : Frame) : Reply :=
  match work with
  | .body ops => .enter [.body ops "" .null, frame] .proceed
  | .call f argument => .enter [frame] (.ended (f.apply argument))

namespace World

def done (w : World) (v : Value) : World × Reply := (w, .answer v)

def orGone (w : World) (result : Option (World × Reply)) : World × Reply :=
  result.getD (w, .answer .gone)

def view {α : Type} (w : World) (parts : Registry α) (name : String) (f : α → Value) :
    World × Reply :=
  w.orGone ((parts.find? name).map fun (_, part) => w.done (f part))

end World

end WorkerPool.Scenario
