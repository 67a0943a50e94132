import LdnsSelector.ListPane
import LdnsSelector.TransitionSystem

set_option autoImplicit true

namespace LdnsSelector

structure UiAdapterInfo where
  id : UInt32
  strDescription : WString
  strDns1 : WString
  strDns2 : WString
  deriving DecidableEq, Repr

structure UiDnsInfo where
  strVip : WString
  strUptime : WString
  strPingTMs : WString
  deriving DecidableEq, Repr

/-- A task `post_call` puts in the queue of the window. Messages for the log, the
advertisement and the browser are all notices. -/
inductive Task where
  | enableUserOperation (enable : Bool)
  | initialized
  | fillAdapterInfo (vecAdapterInfo : List UiAdapterInfo)
  | fillDnsInfo (vecIpDnsInfo : List UiDnsInfo)
  | notice
  deriving DecidableEq, Repr

/-- What a thread of its own asks the notifyer to do. -/
inductive Operation where
  | onInitialize
  | autoDone
  | freshenAdapterInfo
  | freshenDnsInfo
  | switchDns (adapterIndex : UInt32) (strIp : WString)
  deriving DecidableEq, Repr

/-- What a thread does to what the threads share, in one step. -/
inductive Action where
  | post (task : Task)
  | clearAdapterInfo
  | clearDnsInfo
  | addAdapterInfo (info : UiAdapterInfo)
  | addDnsInfo (info : UiDnsInfo)
  | spawn (op : Operation)
  deriving DecidableEq, Repr

inductive Outcome where
  | failed
  | succeeded
  | freshenedAdapterInfo (vecAdapterInfo : List UiAdapterInfo)
  | freshenedDnsInfo (vecIpDnsInfo : List UiDnsInfo)
  deriving DecidableEq, Repr

/-- A worker thread: in the call of the notifyer, or after it with `rest` still to do. -/
inductive Worker where
  | running (op : Operation)
  | finishing (op : Operation) (outcome : Outcome) (rest : List Action)
  deriving DecidableEq, Repr

inductive Button where
  | autoDone
  | freshenAdapter
  | freshenDns
  | switchAdapterDns
  deriving DecidableEq, Repr

/-- The window. `handling` is what the user interface thread has still to do of the message it
is at. -/
structure Ui where
  enabled : Bool
  queue : List Task
  handling : List Action
  workers : List Worker
  adapterInfo : ListPane UiAdapterInfo UInt32
  dnsInfo : ListPane UiDnsInfo WString
  nextItem : Nat
  deriving DecidableEq, Repr

abbrev disableUserOperation : Action := .post (.enableUserOperation false)

abbrev enableUserOperation : Action := .post (.enableUserOperation true)

abbrev showlog : Action := .post .notice

/-- `ui::OnAutoDone`, with the `show_ad` before it. -/
def onAutoDone : List Action := [.post .notice, disableUserOperation, .spawn .autoDone]

def onFreshenAdapterInfo : List Action :=
  [.clearAdapterInfo, disableUserOperation, .spawn .freshenAdapterInfo]

def onFreshenDnsInfo : List Action :=
  [.clearDnsInfo, disableUserOperation, .spawn .freshenDnsInfo]

def onSwitchAdapter (s : Ui) : List Action :=
  match s.adapterInfo.selected, s.dnsInfo.selected with
  | some index, some strIp => [disableUserOperation, .spawn (.switchDns index strIp)]
  | _, _ => [showlog]

/-- `ui::OnClick` on an operation button. -/
def onClick (s : Ui) : Button → List Action
  | .autoDone => onAutoDone
  | .freshenAdapter => onFreshenAdapterInfo
  | .freshenDns => onFreshenDnsInfo
  | .switchAdapterDns => onSwitchAdapter s

/-- What a worker does when the notifyer has returned. A successful switch starts a refresh of
the adapters from the worker itself. -/
def afterOperation : Operation → Outcome → List Action
  | .onInitialize, .succeeded => [.post .initialized]
  | .onInitialize, _ => [showlog]
  | .autoDone, _ => [showlog, enableUserOperation]
  | .freshenAdapterInfo, .freshenedAdapterInfo vecAdapterInfo =>
    [.post (.fillAdapterInfo vecAdapterInfo)]
  | .freshenAdapterInfo, _ => [showlog, enableUserOperation]
  | .freshenDnsInfo, .freshenedDnsInfo vecIpDnsInfo => [.post (.fillDnsInfo vecIpDnsInfo)]
  | .freshenDnsInfo, _ => [showlog, enableUserOperation]
  | .switchDns _ _, .succeeded => onFreshenAdapterInfo ++ [showlog, enableUserOperation]
  | .switchDns _ _, _ => [showlog, enableUserOperation]

/-- What the user interface thread does for a task, after the buttons are set. -/
def handle : Task → List Action
  | .enableUserOperation _ => []
  | .initialized => [enableUserOperation]
  | .fillAdapterInfo vecAdapterInfo =>
    showlog :: (vecAdapterInfo.map .addAdapterInfo ++ [enableUserOperation])
  | .fillDnsInfo vecIpDnsInfo => showlog :: (vecIpDnsInfo.map .addDnsInfo ++ [enableUserOperation])
  | .notice => []

namespace Ui

def setEnabled (enabled : Bool) : Task → Bool
  | .enableUserOperation enable => enable
  | _ => enabled

def perform (s : Ui) : Action → Ui
  | .post task => { s with queue := s.queue ++ [task] }
  | .clearAdapterInfo => { s with adapterInfo := s.adapterInfo.clear }
  | .clearDnsInfo => { s with dnsInfo := s.dnsInfo.clear }
  | .addAdapterInfo info => { s with
      adapterInfo := s.adapterInfo.addRow s.nextItem info info.id
      nextItem := s.nextItem + 1 }
  | .addDnsInfo info => { s with
      dnsInfo := s.dnsInfo.addRow s.nextItem info info.strVip
      nextItem := s.nextItem + 1 }
  | .spawn op => { s with workers := s.workers ++ [.running op] }

def initWindow : Ui where
  enabled := true
  queue := [.enableUserOperation false]
  handling := []
  workers := [.running .onInitialize]
  adapterInfo := {}
  dnsInfo := {}
  nextItem := 0

def Idle (s : Ui) : Prop := s.queue = [] ∧ s.handling = []

instance (s : Ui) : Decidable s.Idle := inferInstanceAs (Decidable (_ ∧ _))

end Ui

/-- Who takes the next step. Input of the user comes after every posted task. -/
inductive UiStep where
  | dispatch
  | handle
  | click (button : Button)
  | rowClick (item : Nat)
  | adapterKeyDown
  | dnsKeyDown
  | notice
  | returns (worker : Nat) (outcome : Outcome)
  | work (worker : Nat)
  deriving DecidableEq, Repr

namespace Ui

def dispatch (s : Ui) : Option Ui :=
  match s.handling, s.queue with
  | [], task :: queue => some { s with
      queue := queue, handling := LdnsSelector.handle task, enabled := setEnabled s.enabled task }
  | _, _ => none

def handleNext (s : Ui) : Option Ui :=
  match s.handling with
  | [] => none
  | action :: rest => some ({ s with handling := rest }.perform action)

def returns (s : Ui) (i : Nat) (outcome : Outcome) : Option Ui :=
  match s.workers[i]? with
  | some (.running op) => some { s with
      workers := s.workers.set i (.finishing op outcome (afterOperation op outcome)) }
  | _ => none

def work (s : Ui) (i : Nat) : Option Ui :=
  match s.workers[i]? with
  | some (.finishing op outcome (action :: rest)) =>
    some ({ s with workers := s.workers.set i (.finishing op outcome rest) }.perform action)
  | _ => none

def step (s : Ui) : UiStep → Option Ui
  | .dispatch => s.dispatch
  | .handle => s.handleNext
  | .click button =>
    if s.Idle ∧ s.enabled = true then some { s with handling := onClick s button } else none
  | .rowClick item =>
    if s.Idle then
      some { s with adapterInfo := s.adapterInfo.rowClick item, dnsInfo := s.dnsInfo.rowClick item }
    else none
  | .adapterKeyDown =>
    if s.Idle then some { s with adapterInfo := s.adapterInfo.keyDown } else none
  | .dnsKeyDown => if s.Idle then some { s with dnsInfo := s.dnsInfo.keyDown } else none
  | .notice => some (s.perform showlog)
  | .returns i outcome => s.returns i outcome
  | .work i => s.work i

end Ui

/-- The window, its queue and the worker threads, in every interleaving. -/
def uiSystem : TransitionSystem Ui UiStep where
  initial s := s = Ui.initWindow
  step := Ui.step

end LdnsSelector
