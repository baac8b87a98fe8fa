import RegistryStorage.BlobService
import RegistryStorage.Provider.Program
import RegistryStorage.ResourceManager.Resource

/-!
A provider behind servers.

`Remote.reply` answers calls by asking the resource manager and the blob service of a cloud.
Which cloud, and with which credentials, is settled by the calls that obtain clients; until then
nobody can be asked. Clients that are obtained anew start without tokens. A wait for the resource
manager that breaks down takes the program with it.
-/

set_option autoImplicit false

namespace RegistryStorage

open Http

/-- A provider behind servers, and the clients in use. -/
structure Remote where
  session : Session
  poll : PollOptions
  manager : Option ResourceManager := none
  blobs : Option CloudEnvironment := none

/-- Where a cluster's tokens come from: from the authority of its cloud, if the client has a
secret. -/
def ClusterCredentials.tokenSource (c : ClusterCredentials) (environment : CloudEnvironment) :
    Except Fault TokenSource :=
  if hasSecret c.clientSecret then
    match Url.parse environment.activeDirectory with
    | .ok authority =>
      .ok (.clientSecret authority c.tenant c.client (c.clientSecret.getD ""))
    | .error fault => .error (.config ("Invalid authority URL: " ++ fault.message))
  else .ok .surroundings

namespace Remote

/-- The fault of a call made without a client. -/
def noClient : Fault := .api "no client has been obtained"

/-- Asks the resource manager. -/
def ask {α : Type} (d : Option (Dialogue α)) (r : Remote) : Option (Except Fault α) × Remote :=
  match d with
  | some d =>
    let (result, t) := d r.session
    (Halt.reply? result, { r with session := t })
  | none => (some (.error noClient), r)

/-- Asks the blob service. -/
def askBlobs {α : Type} (f : CloudEnvironment → Session → Except Fault α × Session)
    (r : Remote) : Option (Except Fault α) × Remote :=
  match r.blobs with
  | some environment =>
    let (result, t) := f environment r.session
    (some result, { r with session := t })
  | none => (some (.error noClient), r)

/-- Obtains clients. -/
def obtain (environment : CloudEnvironment) (c : ClusterCredentials) (r : Remote) :
    Option (Except Fault Unit) × Remote :=
  match c.tokenSource environment with
  | .error fault => (some (.error fault), r)
  | .ok source =>
    (some (.ok ()), { r with
      session := { r.session with tokens := [] }
      manager :=
        some (.ofEnvironment source environment c.subscription c.resourceGroup r.poll)
      blobs := some environment })

/-- Answers a call. -/
def reply : FrailReplier Remote
  | .clients environment credentials, r => r.obtain environment credentials
  | .containers environment, r => (some (.ok ()), { r with blobs := some environment })
  | .containerExists account key container, r =>
    r.askBlobs fun e => BlobService.containerExists e account key container
  | .createContainer account key container, r =>
    r.askBlobs fun e => BlobService.createContainer e account key container
  | .deleteContainer account key container, r =>
    r.askBlobs fun e => BlobService.deleteContainer e account key container
  | c, r => r.ask (r.manager.bind fun m => m.reply? c)

end Remote

end RegistryStorage
