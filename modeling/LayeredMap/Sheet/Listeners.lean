import LayeredMap.Sheet.Basic

/-!
# Listening to a sheet

Registration says whether it changed anything; on a disposed sheet it does
not. The first listener to the stack makes the sheet subscribe a new relay to
its members, the last one to leave makes it give the relay up.
-/
namespace LayeredMap.Sheet

def startRelay (s : Sheet) : Step Bool :=
  let (r, s) := match s.relay with
    | some r => (r, s)
    | none =>
      (s.relaysMade, { s with relay := some s.relaysMade, relaysMade := s.relaysMade + 1 })
  { result := true
    sheet := s
    actions := s.layers.map (.subscribe · r) ++ [.note (.listening s.layerCount)] }

def stopRelay (s : Sheet) : Step Bool :=
  match s.relay with
  | none => .still s true
  | some r =>
    { result := true
      sheet := { s with relay := none }
      actions := s.layers.map (.unsubscribe · r) ++ [.note (.stoppedListening s.layerCount)] }

def listenToStack (s : Sheet) (l : ListenerRef) : Step Bool :=
  if s.disposed then .still s false
  else
    match s.stackListeners.add l with
    | (false, _) => .still s false
    | (true, roster) =>
      let s := { s with stackListeners := roster }
      if roster.size = 1 then s.startRelay else .still s true

def unlistenToStack (s : Sheet) (l : ListenerRef) : Step Bool :=
  match s.stackListeners.remove l with
  | (false, _) => .still s false
  | (true, roster) =>
    let s := { s with stackListeners := roster }
    if roster.isEmpty then s.stopRelay else .still s true

def listenToProperties (s : Sheet) (l : ListenerRef) : Step Bool :=
  if s.disposed then .still s false
  else
    let (added, roster) := s.propertyListeners.add l
    .still { s with propertyListeners := roster } added

def unlistenToProperties (s : Sheet) (l : ListenerRef) : Step Bool :=
  let (removed, roster) := s.propertyListeners.remove l
  .still { s with propertyListeners := roster } removed

def listenToViewport (s : Sheet) (l : ListenerRef) : Step Bool :=
  if s.disposed then .still s false
  else
    let (added, roster) := s.viewportListeners.add l
    .still { s with viewportListeners := roster } added

def unlistenToViewport (s : Sheet) (l : ListenerRef) : Step Bool :=
  let (removed, roster) := s.viewportListeners.remove l
  .still { s with viewportListeners := roster } removed

end LayeredMap.Sheet
