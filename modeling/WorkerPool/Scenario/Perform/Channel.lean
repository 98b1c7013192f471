import WorkerPool.Scenario.Perform.Basic

namespace WorkerPool.Scenario

open Value (ok)

namespace World

def spendPromise (w : World) (name : String) (f : Channels Value → Nat → Channels Value) :
    World × Reply :=
  w.orGone do
    let c ← w.promises.find? name
    some ({ w with promises := w.promises.erase name, channels := f w.channels c }.done ok)

def dropPromise (w : World) (name : String) : World :=
  match w.promises.find? name with
  | some c => { w with promises := w.promises.erase name, channels := w.channels.abandon c }
  | none => w

def createChannel (w : World) (name : String) : World :=
  let w := w.dropPromise name
  let c := w.channels.next
  { w with
    channels := w.channels.create
    promises := w.promises.insert name c
    readers := w.readers.insert name c }

def performChannel (w : World) : ChannelOp → World × Reply
  | .create name => (w.createChannel name).done ok
  | .fulfill name value => w.spendPromise name fun cs c => cs.settle c (.ok value)
  | .fail name error => w.spendPromise name fun cs c => cs.settle c (.error error)
  | .complete name work => w.orGone do
      let c ← w.promises.find? name
      some ({ w with promises := w.promises.erase name }, .start work (.completion c))
  | .dropPromise name => w.spendPromise name Channels.abandon
  | .dropChannel name => w.orGone do
      let _ ← w.readers.find? name
      some ({ w with readers := w.readers.erase name }.done ok)
  | .showPromise name pretty => w.orGone do
      let _ ← w.promises.find? name
      some (w.done (.shape pretty Slot.promiseShape))
  | .isReady name => w.orGone do
      let c ← w.readers.find? name
      some (w.done (.bool (w.channels.slot c).isReady))
  | .describe name pretty => w.orGone do
      let c ← w.readers.find? name
      some (w.done (.shape pretty (w.channels.slot c).shape))
  | .tryTake name => w.orGone do
      let c ← w.readers.find? name
      let (outcome, channels) := w.channels.read c
      some ({ w with channels }.done (.polled outcome))
  | .waitTimeout name timeout => w.orGone do
      let c ← w.readers.find? name
      some (w, .wait (.outcome c false) (some timeout))
  | .wait name => w.orGone do
      let c ← w.readers.find? name
      some ({ w with readers := w.readers.erase name }, .wait (.outcome c true) none)

end World

end WorkerPool.Scenario
