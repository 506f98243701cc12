import CpuCom.Service.Client

/-! `ClientManager` and the tasks that the executor runs one after another. Listeners
and error callbacks are known by their binders. -/

namespace CpuCom.Service.ServiceState
open Interaction

variable {B : Type} [LinearOrder B]

def getClient (service : ServiceState B) (pid : Int) : Option Nat :=
  service.mClients.find? fun client => decide (service.pid client = pid)

/-- A binder that has died cannot be linked any more; the client stays as it is. -/
def createClient (service : ServiceState B) (pid : Int) (binder : B) (deathRecipient : ClientDeathObserver) :
    Option Nat × ServiceState B :=
  let (client, service) := service.newClient pid (some binder)
  let service := { service with mClients := service.mClients ++ [client] }
  if service.isBinderAlive binder then
    (some client, { service with
      links := service.links ++ [(binder, deathRecipient)]
      mDeathObservers := service.mDeathObservers.insert binder deathRecipient })
  else (none, service)

/-- Whoever is not linked cannot be unlinked, unless the binder has died. -/
def unlinkToDeath (service : ServiceState B) (binder : B) (recipient : ClientDeathObserver) :
    Except Fault (ServiceState B) :=
  if (binder, recipient) ∈ service.links then .ok { service with links := service.links.erase (binder, recipient) }
  else if service.isBinderAlive binder then .error .notLinked
  else .ok service

def destroyClient (service : ServiceState B) : Option Nat → Except Fault (ServiceState B)
  | none => .error .nullClient
  | some client =>
      match (service.client client).mBinder with
      | none => .error .nullBinder
      | some binder =>
          match service.mDeathObservers[binder]? with
          | none => .error .nullRecipient
          | some recipient => do
              let service ← service.unlinkToDeath binder recipient
              let service := { service with mDeathObservers := service.mDeathObservers.erase binder }
              let service ← service.destroy client
              pure { service with mClients := service.mClients.erase client }

/-- The client of a process, a new one if there is none. -/
def getOrCreateClient (service : ServiceState B) (pid : Int) (binder : B) : Option Nat × ServiceState B :=
  match service.getClient pid with
  | some client => (some client, service)
  | none => service.createClient pid binder ⟨pid⟩

/-- A client without callbacks goes. -/
def destroyUnused (service : ServiceState B) (client : Nat) : Except Fault (ServiceState B) :=
  if service.hasAliveRemoteCallbacks client then .ok service else service.destroyClient (some client)

end CpuCom.Service.ServiceState

namespace CpuCom.Service

inductive Task (B : Type) where
  | subscribe (pid : Int) (command : CpuCommand) (listener : B)
  | unsubscribe (pid : Int) (command : CpuCommand) (listener : B)
  | setErrorCallback (pid : Int) (errorCallback : B)
  | resetErrorCallback (pid : Int)
  | sendCommand (pid : Int) (command : CpuCommand)
  | destroyClient (pid : Int)
deriving DecidableEq

namespace Task
open ServiceState

variable {B : Type} [LinearOrder B]

def run (service : ServiceState B) : Task B → Except Fault (ServiceState B)
  | .subscribe pid command listener =>
      if command.isValid then
        match service.getOrCreateClient pid listener with
        | (some client, service) => service.addListener client command listener
        | (none, service) => .ok service
      else .ok service
  | .unsubscribe pid command listener =>
      match service.getClient pid with
      | some client => do
          let (_, service) ← service.removeListener client command listener
          service.destroyUnused client
      | none => .ok service
  | .setErrorCallback pid errorCallback =>
      match service.getOrCreateClient pid errorCallback with
      | (some client, service) => service.setErrorCallback client (some errorCallback)
      | (none, service) => .ok service
  | .resetErrorCallback pid =>
      match service.getClient pid with
      | some client => do
          let service ← service.setErrorCallback client none
          service.destroyUnused client
      | none => .ok service
  | .sendCommand pid command =>
      if command.isValid then service.send ((service.getClient pid).getD mAnonymousClient) command else .ok service
  | .destroyClient pid => service.destroyClient (service.getClient pid)

end Task
end CpuCom.Service
