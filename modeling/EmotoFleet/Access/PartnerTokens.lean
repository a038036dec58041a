import EmotoFleet.Foundations.Interleavings
import EmotoFleet.Foundations.Tables
import EmotoFleet.Telemetry.SinoTrack

/-!
# The tokens of partners

A partner has clients, each with a secret and with scopes. Whoever presents the secret of a
client gets a token that says which client it is and what its scopes were, and a token is
worth what its client and its partner are worth when it is presented.

Signatures are what they should be: a token that passes the check is one that was signed.
That a token expires is left out, so that what holds here for all tokens holds for those
that have not. Secrets and the names of clients are generated elsewhere. Of the accounts of
insurers there is what their requests do to the partner with the same identity; whether an
account may make a request, and the log of what was done, are left out.
-/

namespace EmotoFleet.PartnerTokens

open Interleavings Runs
open Program (loadOrThrow ensure learns_load learns_ensure learns_write)
open WhiteSpace (isSpace)

/-- The keys of the tables are drawn one after the other. -/
abbrev PartnerId := Nat
abbrev ClientRowId := Nat

/-- Whether a partner may enter. -/
inductive PartnerStatus where
  | ACTIVE
  | DISABLED
  deriving DecidableEq

/-- Whether a credential may be used. -/
inductive PartnerClientStatus where
  | ACTIVE
  | DISABLED
  deriving DecidableEq

/-- A partner of the platform. -/
structure Partner where
  id : PartnerId
  name : String
  status : PartnerStatus

/-- A credential of a partner, with its secret as a hash. -/
structure PartnerClient where
  id : ClientRowId
  partnerId : PartnerId
  clientId : String
  clientSecretHash : String
  scopes : String
  status : PartnerClientStatus

/-- What a token says. -/
structure PartnerJwtPayload where
  sub : ClientRowId
  partnerId : PartnerId
  clientId : String
  scopes : List String

/-- A caller that a token was accepted of. -/
structure AuthenticatedPartner where
  partnerId : PartnerId
  partnerName : String
  partnerStatus : PartnerStatus
  partnerClientId : String
  scopes : List String

/-- What the database objects to: a name that is taken, a missing partner, a missing row. -/
inductive DatabaseError where
  | P2002
  | P2003
  | P2025
  deriving DecidableEq

/-- What a call may fail with. -/
inductive Failure where
  | unauthorized (message : String)
  | notFound (message : String)
  | database (error : DatabaseError)
  deriving DecidableEq

/-- The tables with their keys, and the tokens that have been signed. Nothing has been
numbered from `nextId` on. -/
structure PartnerTables where
  partners : List Partner
  clients : List PartnerClient
  signed : List PartnerJwtPayload
  nextId : Nat
  partnerKeys : (partners.map Partner.id).Nodup
  clientKeys : (clients.map PartnerClient.id).Nodup
  numbered : ∀ client ∈ clients, client.id < nextId
  partnersNumbered : ∀ partner ∈ partners, partner.id < nextId
  owned : ∀ client ∈ clients, ∃ partner ∈ partners, partner.id = client.partnerId

/-- What the code takes from its libraries. -/
structure Libraries where
  hash : String → String
  compare : String → String → Bool
  localeCompare : String → String → Ordering

/-- The writes to the tables; signing a token is kept as one. -/
inductive Write where
  | createPartner (name : String)
  | createInsurer (name clientId clientSecretHash : String)
  | createClient (partnerId : PartnerId) (clientId clientSecretHash scopes : String)
  | updateSecret (id : ClientRowId) (clientSecretHash : String)
  | deleteClient (id : ClientRowId)
  | setPartnerStatus (id : PartnerId) (status : PartnerStatus)
  | deletePartner (id : PartnerId)
  | deleteInsurer (id : PartnerId)
  | sign (payload : PartnerJwtPayload)

namespace PartnerTables

variable (tables : PartnerTables)

/-- A credential by its key. -/
def findClient (id : ClientRowId) : Option PartnerClient :=
  tables.clients.find? fun client => decide (client.id = id)

/-- A partner by its key. -/
def findPartner (id : PartnerId) : Option Partner :=
  tables.partners.find? fun partner => decide (partner.id = id)

/-- A partner is found exactly if it is stored. -/
theorem findPartner_iff {id : PartnerId} {partner : Partner} :
    tables.findPartner id = some partner ↔ partner ∈ tables.partners ∧ partner.id = id :=
  Tables.find?_key_iff tables.partnerKeys

/-- The tables with a new partner. -/
def addPartner (name : String) : PartnerTables where
  partners := tables.partners ++ [⟨tables.nextId, name, .ACTIVE⟩]
  clients := tables.clients
  signed := tables.signed
  nextId := tables.nextId + 1
  partnerKeys := by
    refine (Tables.unique_append_iff _).mpr ⟨tables.partnerKeys, fun taken => ?_⟩
    obtain ⟨partner, listed, same⟩ := List.mem_map.mp taken
    exact absurd same (tables.partnersNumbered partner listed).ne
  clientKeys := tables.clientKeys
  numbered := fun client listed => (tables.numbered client listed).trans (Nat.lt_succ_self _)
  partnersNumbered := by
    intro partner listed
    cases List.mem_append.mp listed with
    | inl old => exact (tables.partnersNumbered partner old).trans (Nat.lt_succ_self _)
    | inr new =>
      rw [List.mem_singleton.mp new]
      exact Nat.lt_succ_self _
  owned := by
    intro client listed
    obtain ⟨partner, stored, same⟩ := tables.owned client listed
    exact ⟨partner, List.mem_append_left _ stored, same⟩

/-- The tables with a new credential of a partner that is there. -/
def addClient (partnerId : PartnerId) (known : ∃ partner ∈ tables.partners, partner.id = partnerId)
    (clientId clientSecretHash scopes : String) : PartnerTables where
  partners := tables.partners
  clients := tables.clients ++
    [⟨tables.nextId, partnerId, clientId, clientSecretHash, scopes, .ACTIVE⟩]
  signed := tables.signed
  nextId := tables.nextId + 1
  partnerKeys := tables.partnerKeys
  clientKeys := by
    refine (Tables.unique_append_iff _).mpr ⟨tables.clientKeys, fun taken => ?_⟩
    obtain ⟨client, listed, same⟩ := List.mem_map.mp taken
    exact absurd same (tables.numbered client listed).ne
  numbered := by
    intro client listed
    cases List.mem_append.mp listed with
    | inl old => exact (tables.numbered client old).trans (Nat.lt_succ_self _)
    | inr new =>
      rw [List.mem_singleton.mp new]
      exact Nat.lt_succ_self _
  partnersNumbered := fun partner listed =>
    (tables.partnersNumbered partner listed).trans (Nat.lt_succ_self _)
  owned := by
    intro client listed
    cases List.mem_append.mp listed with
    | inl old => exact tables.owned client old
    | inr new =>
      rw [List.mem_singleton.mp new]
      exact known

/-- The new partner is there. -/
theorem addPartner_known (name : String) :
    ∃ partner ∈ (tables.addPartner name).partners, partner.id = tables.nextId :=
  ⟨_, List.mem_append_right _ List.mem_cons_self, rfl⟩

/-- The tables after a credential has got a new secret. -/
def updateSecret (id : ClientRowId) (clientSecretHash : String) : PartnerTables :=
  { tables with
    clients := Tables.updateKey PartnerClient.id id
      (fun client => { client with clientSecretHash := clientSecretHash }) tables.clients
    clientKeys := by
      rw [@Tables.map_updateKey PartnerClient ClientRowId PartnerClient.id tables.clients _ id
        (fun client => { client with clientSecretHash := clientSecretHash }) ClientRowId
        PartnerClient.id fun _ => rfl]
      exact tables.clientKeys
    numbered := by
      intro client listed
      cases Tables.mem_updateKey.mp listed with
      | inl changed =>
        obtain ⟨old, stored, _, rfl⟩ := changed
        exact tables.numbered old stored
      | inr kept => exact tables.numbered client kept.1
    owned := by
      intro client listed
      cases Tables.mem_updateKey.mp listed with
      | inl changed =>
        obtain ⟨old, stored, _, rfl⟩ := changed
        exact tables.owned old stored
      | inr kept => exact tables.owned client kept.1 }

/-- The tables without a credential. -/
def removeClient (id : ClientRowId) : PartnerTables :=
  { tables with
    clients := tables.clients.filter fun client => decide (client.id ≠ id)
    clientKeys := tables.clientKeys.sublist (List.filter_sublist.map _)
    numbered := fun client listed => tables.numbered client (List.mem_filter.mp listed).1
    owned := fun client listed => tables.owned client (List.mem_filter.mp listed).1 }

/-- The tables after a partner was enabled or disabled. -/
def setPartnerStatus (id : PartnerId) (status : PartnerStatus) : PartnerTables :=
  { tables with
    partners := Tables.updateKey Partner.id id (fun partner => { partner with status := status })
      tables.partners
    partnerKeys := by
      rw [@Tables.map_updateKey Partner PartnerId Partner.id tables.partners _ id
        (fun partner => { partner with status := status }) PartnerId Partner.id fun _ => rfl]
      exact tables.partnerKeys
    partnersNumbered := by
      intro partner listed
      cases Tables.mem_updateKey.mp listed with
      | inl changed =>
        obtain ⟨old, stored, _, rfl⟩ := changed
        exact tables.partnersNumbered old stored
      | inr kept => exact tables.partnersNumbered partner kept.1
    owned := by
      intro client listed
      obtain ⟨partner, stored, same⟩ := tables.owned client listed
      by_cases chosen : partner.id = id
      · exact ⟨_, Tables.mem_updateKey.mpr (Or.inl ⟨partner, stored, chosen, rfl⟩), same⟩
      · exact ⟨partner, Tables.mem_updateKey.mpr (Or.inr ⟨stored, chosen⟩), same⟩ }

/-- A partner takes its clients along. -/
def removePartner (id : PartnerId) : PartnerTables where
  partners := tables.partners.filter fun partner => decide (partner.id ≠ id)
  clients := tables.clients.filter fun client => decide (client.partnerId ≠ id)
  signed := tables.signed
  nextId := tables.nextId
  partnerKeys := tables.partnerKeys.sublist (List.filter_sublist.map _)
  clientKeys := tables.clientKeys.sublist (List.filter_sublist.map _)
  numbered := fun client listed => tables.numbered client (List.mem_filter.mp listed).1
  partnersNumbered := fun partner listed =>
    tables.partnersNumbered partner (List.mem_filter.mp listed).1
  owned := by
    intro client listed
    obtain ⟨stored, others⟩ := List.mem_filter.mp listed
    obtain ⟨partner, found, same⟩ := tables.owned client stored
    refine ⟨partner, List.mem_filter.mpr ⟨found, ?_⟩, same⟩
    rw [same]
    exact others

end PartnerTables

/-- Whether some credential has the name already. -/
def clientIdTaken (tables : PartnerTables) (clientId : String) : Bool :=
  tables.clients.any fun client => client.clientId == clientId

/-- What the database does with a write. -/
def commit (tables : PartnerTables) : Write → Except DatabaseError PartnerTables
  | .createPartner name => .ok (tables.addPartner name)
  | .createInsurer name clientId clientSecretHash =>
    if clientIdTaken tables clientId then .error .P2002
    else .ok ((tables.addPartner name).addClient tables.nextId (tables.addPartner_known name)
      clientId clientSecretHash "insurer:read webhooks:write")
  | .createClient partnerId clientId clientSecretHash scopes =>
    if clientIdTaken tables clientId then .error .P2002
    else if known : ∃ partner ∈ tables.partners, partner.id = partnerId then
      .ok (tables.addClient partnerId known clientId clientSecretHash scopes)
    else .error .P2003
  | .updateSecret id clientSecretHash =>
    if (tables.findClient id).isSome then .ok (tables.updateSecret id clientSecretHash)
    else .error .P2025
  | .deleteClient id =>
    if (tables.findClient id).isSome then .ok (tables.removeClient id) else .error .P2025
  | .setPartnerStatus id status => .ok (tables.setPartnerStatus id status)
  | .deletePartner id =>
    if (tables.findPartner id).isSome then .ok (tables.removePartner id) else .error .P2025
  | .deleteInsurer id => .ok (tables.removePartner id)
  | .sign payload => .ok { tables with signed := tables.signed ++ [payload] }

/-! ## The services -/

/-- A call of the service. -/
abbrev Call := Program PartnerTables Write DatabaseError Failure

section Services

variable (libraries : Libraries)

/-- The words of a text, each once and in order. -/
def parseScopes (scopeString : String) : List String :=
  (((scopeString.toList.splitOnP isSpace).filter fun word => !word.isEmpty).map
    String.ofList).eraseDups.mergeSort fun left right =>
      decide (libraries.localeCompare left right ≠ .gt)

/-- A client is read together with its partner. -/
def findClientWithPartner (tables : PartnerTables) (chosen : PartnerClient → Bool) :
    Option (PartnerClient × Partner) :=
  (tables.clients.find? chosen).bind fun client =>
    (tables.findPartner client.partnerId).map fun partner => (client, partner)

/-- What the token of a credential says. -/
def tokenPayload (client : PartnerClient) : PartnerJwtPayload where
  sub := client.id
  partnerId := client.partnerId
  clientId := client.clientId
  scopes := parseScopes libraries client.scopes

/-- A token is signed for who knows the secret of an active credential. -/
def issueTokenFromClientCredentials (clientId clientSecret : String) : Call Unit := do
  let (client, partner) ← loadOrThrow
    (fun tables => findClientWithPartner tables fun client => client.clientId == clientId)
    (.unauthorized "Invalid partner credentials")
  ensure (client.status == .ACTIVE) (.unauthorized "Invalid partner credentials")
  ensure (partner.status == .ACTIVE) (.unauthorized "Partner is disabled")
  ensure (libraries.compare clientSecret client.clientSecretHash)
    (.unauthorized "Invalid partner credentials")
  Program.write (.sign (tokenPayload libraries client)) .database

/-- The guard of the partners' requests, at one state of the tables. -/
def authenticateAccessToken (tables : PartnerTables) (payload : PartnerJwtPayload) :
    Except Failure AuthenticatedPartner :=
  match findClientWithPartner tables fun client => decide (client.id = payload.sub) with
  | none => .error (.unauthorized "Partner client is not active")
  | some (client, partner) =>
    if client.status ≠ .ACTIVE then .error (.unauthorized "Partner client is not active")
    else if partner.status ≠ .ACTIVE then .error (.unauthorized "Partner is disabled")
    else if client.partnerId ≠ payload.partnerId then
      .error (.unauthorized "Partner token validation failed")
    else .ok {
      partnerId := partner.id
      partnerName := partner.name
      partnerStatus := partner.status
      partnerClientId := client.clientId
      scopes := (parseScopes libraries client.scopes).filter (payload.scopes.contains ·) }

/-- The requests about partners and their tokens. -/
inductive Request where
  | createPartner (name : String)
  | createInsurer (name clientId clientSecret : String)
  | createPartnerCredential (partnerId : PartnerId) (clientId clientSecret scopes : String)
  | deletePartnerCredential (partnerId : PartnerId) (credentialId : ClientRowId)
  | permanentDeletePartner (partnerId : PartnerId)
  | rotatePartnerKeys (userId : PartnerId) (clientSecret : String)
  | updateInsurerStatus (userId : PartnerId) (active : Bool)
  | deleteInsurer (userId : PartnerId)
  | issueToken (clientId clientSecret : String)

/-- The partner that a call is about. -/
def findPartnerOrThrow (id : PartnerId) : Call Partner :=
  loadOrThrow (fun tables => tables.findPartner id) (.notFound "Partner not found")

/-- One write, whose rejection ends the call. -/
def save (operation : Write) : Call Unit :=
  Program.write operation .database

/-- The call that answers a request. -/
def handle : Request → Call Unit
  | .createPartner name => save (.createPartner name)
  | .createInsurer name clientId clientSecret =>
    save (.createInsurer name clientId (libraries.hash clientSecret))
  | .createPartnerCredential partnerId clientId clientSecret scopes => do
    let _partner ← findPartnerOrThrow partnerId
    save (.createClient partnerId clientId (libraries.hash clientSecret) scopes)
  | .deletePartnerCredential partnerId credentialId => do
    let _credential ← loadOrThrow
      (fun tables => (tables.findClient credentialId).filter fun credential =>
        decide (credential.partnerId = partnerId))
      (.notFound "Credential not found")
    save (.deleteClient credentialId)
  | .permanentDeletePartner partnerId => do
    let _partner ← findPartnerOrThrow partnerId
    save (.deletePartner partnerId)
  | .rotatePartnerKeys userId clientSecret => do
    let client ← loadOrThrow
      (fun tables => tables.clients.find? fun client => decide (client.partnerId = userId))
      (.notFound "Partner client keys not found")
    save (.updateSecret client.id (libraries.hash clientSecret))
  | .updateInsurerStatus userId active =>
    save (.setPartnerStatus userId (if active then .ACTIVE else .DISABLED))
  | .deleteInsurer userId => save (.deleteInsurer userId)
  | .issueToken clientId clientSecret =>
    issueTokenFromClientCredentials libraries clientId clientSecret

end Services

/-! ## What a token says of its client -/

/-- What the tables become, operation by operation. -/
inductive Commits (tables : PartnerTables) : Write → PartnerTables → Prop where
  | createPartner {name : String} : Commits tables (.createPartner name) (tables.addPartner name)
  | createInsurer {name clientId clientSecretHash : String} :
      Commits tables (.createInsurer name clientId clientSecretHash)
        ((tables.addPartner name).addClient tables.nextId (tables.addPartner_known name) clientId
          clientSecretHash "insurer:read webhooks:write")
  | createClient {partnerId : PartnerId} {clientId clientSecretHash scopes : String}
      (known : ∃ partner ∈ tables.partners, partner.id = partnerId) :
      Commits tables (.createClient partnerId clientId clientSecretHash scopes)
        (tables.addClient partnerId known clientId clientSecretHash scopes)
  | updateSecret {id : ClientRowId} {clientSecretHash : String} :
      Commits tables (.updateSecret id clientSecretHash) (tables.updateSecret id clientSecretHash)
  | deleteClient {id : ClientRowId} : Commits tables (.deleteClient id) (tables.removeClient id)
  | setPartnerStatus {id : PartnerId} {status : PartnerStatus} :
      Commits tables (.setPartnerStatus id status) (tables.setPartnerStatus id status)
  | deletePartner {id : PartnerId} : Commits tables (.deletePartner id) (tables.removePartner id)
  | deleteInsurer {id : PartnerId} : Commits tables (.deleteInsurer id) (tables.removePartner id)
  | sign {payload : PartnerJwtPayload} :
      Commits tables (.sign payload) { tables with signed := tables.signed ++ [payload] }

/-- What the database has done with a write that it accepts. -/
theorem commits_of_ok {tables written : PartnerTables} {operation : Write}
    (accepted : commit tables operation = .ok written) : Commits tables operation written := by
  cases operation with
  | createInsurer name clientId clientSecretHash =>
    rw [commit] at accepted
    split at accepted
    case isTrue => cases accepted
    case isFalse =>
      cases accepted
      exact .createInsurer
  | createClient partnerId clientId clientSecretHash scopes =>
    rw [commit] at accepted
    split at accepted
    case isTrue => cases accepted
    case isFalse =>
      split at accepted
      case isTrue known =>
        cases accepted
        exact .createClient known
      case isFalse => cases accepted
  | updateSecret id clientSecretHash =>
    rw [commit] at accepted
    split at accepted
    case isTrue =>
      cases accepted
      exact .updateSecret
    case isFalse => cases accepted
  | deleteClient id =>
    rw [commit] at accepted
    split at accepted
    case isTrue =>
      cases accepted
      exact .deleteClient
    case isFalse => cases accepted
  | deletePartner id =>
    rw [commit] at accepted
    split at accepted
    case isTrue =>
      cases accepted
      exact .deletePartner
    case isFalse => cases accepted
  | createPartner name =>
    cases accepted
    exact .createPartner
  | setPartnerStatus id status =>
    cases accepted
    exact .setPartnerStatus
  | deleteInsurer id =>
    cases accepted
    exact .deleteInsurer
  | sign payload =>
    cases accepted
    exact .sign

section Tokens

variable {libraries : Libraries} {tables written : PartnerTables} {operation : Write}

/-- A client that a write leaves is one that was there, with what its tokens say of it, or
one that has just been numbered. -/
theorem Commits.origin (commits : Commits tables operation written) {client : PartnerClient}
    (listed : client ∈ written.clients) :
    (∃ old ∈ tables.clients, tokenPayload libraries old = tokenPayload libraries client ∧
        old.status = client.status) ∨
      tables.nextId ≤ client.id ∧ client.status = .ACTIVE := by
  cases commits with
  | createInsurer =>
    cases List.mem_append.mp listed with
    | inl old => exact Or.inl ⟨client, old, rfl, rfl⟩
    | inr new =>
      rw [List.mem_singleton.mp new]
      exact Or.inr ⟨Nat.le_succ _, rfl⟩
  | createClient =>
    cases List.mem_append.mp listed with
    | inl old => exact Or.inl ⟨client, old, rfl, rfl⟩
    | inr new =>
      rw [List.mem_singleton.mp new]
      exact Or.inr ⟨Nat.le_refl _, rfl⟩
  | updateSecret =>
    cases Tables.mem_updateKey.mp listed with
    | inl changed =>
      obtain ⟨old, stored, _, rfl⟩ := changed
      exact Or.inl ⟨old, stored, rfl, rfl⟩
    | inr kept => exact Or.inl ⟨client, kept.1, rfl, rfl⟩
  | deleteClient | deletePartner | deleteInsurer =>
    exact Or.inl ⟨client, (List.mem_filter.mp listed).1, rfl, rfl⟩
  | createPartner | setPartnerStatus | sign => exact Or.inl ⟨client, listed, rfl, rfl⟩

/-- Keys are drawn upwards. -/
theorem Commits.onward (commits : Commits tables operation written) :
    tables.nextId ≤ written.nextId := by
  cases commits with
  | createInsurer => exact (Nat.le_succ _).trans (Nat.le_succ _)
  | createPartner | createClient => exact Nat.le_succ _
  | updateSecret | deleteClient | setPartnerStatus | deletePartner | deleteInsurer | sign =>
    exact Nat.le_refl _

/-- A new token is the one that was signed. -/
theorem Commits.signed (commits : Commits tables operation written) {payload : PartnerJwtPayload}
    (listed : payload ∈ written.signed) : payload ∈ tables.signed ∨ operation = .sign payload := by
  cases commits with
  | sign =>
    cases List.mem_append.mp listed with
    | inl old => exact Or.inl old
    | inr new => exact Or.inr (congrArg Write.sign (List.mem_singleton.mp new).symm)
  | createPartner | createInsurer | createClient | updateSecret | deleteClient | setPartnerStatus
  | deletePartner | deleteInsurer => exact Or.inl listed

/-- The token is one of a client that was numbered by now, and says of it what is so if it is
there still. -/
structure Describes (libraries : Libraries) (tables : PartnerTables) (payload : PartnerJwtPayload) :
    Prop where
  numbered : payload.sub < tables.nextId
  client : ∀ client ∈ tables.clients, client.id = payload.sub →
    tokenPayload libraries client = payload

/-- Every token describes a credential of its time, and keys were drawn in order. -/
structure Sound (libraries : Libraries) (tables : PartnerTables) : Prop where
  tokens : ∀ payload ∈ tables.signed, Describes libraries tables payload
  active : ∀ client ∈ tables.clients, client.status = .ACTIVE

/-- Of a client nothing changes that its tokens say. -/
structure Later (libraries : Libraries) (seen tables : PartnerTables) : Prop where
  onward : seen.nextId ≤ tables.nextId
  clients : ∀ client ∈ tables.clients, client.id < seen.nextId →
    ∃ old ∈ seen.clients, tokenPayload libraries old = tokenPayload libraries client

/-- A state is no later than itself. -/
theorem later_refl (tables : PartnerTables) : Later libraries tables tables where
  onward := Nat.le_refl _
  clients := fun client listed _ => ⟨client, listed, rfl⟩

/-- What is later than a later state is later. -/
theorem later_trans (first second third : PartnerTables) (before : Later libraries first second)
    (after : Later libraries second third) : Later libraries first third where
  onward := before.onward.trans after.onward
  clients := by
    intro client listed old
    obtain ⟨middle, stored, same⟩ := after.clients client listed (old.trans_le before.onward)
    have sameId : middle.id = client.id := congrArg PartnerJwtPayload.sub same
    obtain ⟨origin, originStored, originSame⟩ := before.clients middle stored (sameId ▸ old)
    exact ⟨origin, originStored, originSame.trans same⟩

/-- A token goes on describing what it was signed for. -/
theorem Describes.later {seen : PartnerTables} {payload : PartnerJwtPayload}
    (describes : Describes libraries seen payload) (later : Later libraries seen tables) :
    Describes libraries tables payload where
  numbered := describes.numbered.trans_le later.onward
  client := by
    intro client listed same
    obtain ⟨old, stored, sameToken⟩ := later.clients client listed (same ▸ describes.numbered)
    have sameId : old.id = client.id := congrArg PartnerJwtPayload.sub sameToken
    rw [← sameToken]
    exact describes.client old stored (sameId.trans same)

/-- What a call has read before it signs a token. -/
def Vouched (libraries : Libraries) (tables : PartnerTables) : Write → Prop
  | .sign payload => Describes libraries tables payload
  | .createPartner _ | .createInsurer _ _ _ | .createClient _ _ _ _ | .updateSecret _ _
  | .deleteClient _ | .setPartnerStatus _ _ | .deletePartner _ | .deleteInsurer _ => True

/-- Every write leads to a later state. -/
theorem Commits.later (commits : Commits tables operation written) :
    Later libraries tables written where
  onward := commits.onward
  clients := by
    intro client listed old
    cases @Commits.origin libraries _ _ _ commits client listed with
    | inl known =>
      obtain ⟨origin, stored, same, _⟩ := known
      exact ⟨origin, stored, same⟩
    | inr new => exact absurd old new.1.not_gt

/-- Every write of a call leads to a later state. -/
theorem commit_later (tables : PartnerTables) (operation : Write) (written : PartnerTables)
    (sound : Sound libraries tables) (vouched : Vouched libraries tables operation)
    (accepted : commit tables operation = .ok written) :
    Sound libraries written ∧ Later libraries tables written := by
  have commits := commits_of_ok accepted
  have later := @Commits.later libraries _ _ _ commits
  refine ⟨⟨?_, ?_⟩, later⟩
  · intro payload listed
    cases commits.signed listed with
    | inl old => exact (sound.tokens payload old).later later
    | inr signed =>
      subst signed
      exact Describes.later vouched later
  · intro client listed
    cases @Commits.origin libraries _ _ _ commits client listed with
    | inl known =>
      obtain ⟨old, stored, _, same⟩ := known
      exact same ▸ sound.active old stored
    | inr new => exact new.2

/-- The token of a stored credential describes it. -/
theorem describes_read {client : PartnerClient} (listed : client ∈ tables.clients) :
    Describes libraries tables (tokenPayload libraries client) where
  numbered := tables.numbered client listed
  client := by
    intro other stored same
    rw [Tables.eq_of_key_eq tables.clientKeys stored listed same]

/-- Every call has read the credential that it signs a token for. -/
theorem handle_knows (request : Request) (seen : PartnerTables) :
    (handle libraries request).Knows (Sound libraries) (Later libraries) (Vouched libraries) seen := by
  refine Program.knows_of_learns (?_ : Program.Learns (Sound libraries) (Later libraries)
    (Vouched libraries) (fun _ _ => True) seen (handle libraries request))
  cases request with
  | createPartner | createInsurer | updateInsurerStatus | deleteInsurer =>
    exact learns_write fun _ _ => trivial
  | createPartnerCredential | deletePartnerCredential | permanentDeletePartner
  | rotatePartnerKeys =>
    apply learns_load
    intro _ _ _ _ _
    exact learns_write fun _ _ => trivial
  | issueToken clientId clientSecret =>
    apply learns_load
    intro tables both _ _ found
    apply learns_ensure
    intro _
    apply learns_ensure
    intro _
    apply learns_ensure
    intro _
    apply learns_write
    intro later onward
    obtain ⟨client, chosen, joined⟩ := Option.bind_eq_some_iff.mp found
    obtain ⟨partner, _, rfl⟩ := Option.map_eq_some_iff.mp joined
    exact (describes_read (List.mem_of_find?_eq_some chosen)).later onward

/-! ## What a token is worth -/

/-- A credential is found with its partner. -/
theorem findClientWithPartner_eq (tables : PartnerTables) {chosen : PartnerClient → Bool}
    {client : PartnerClient} (found : tables.clients.find? chosen = some client) :
    ∃ partner ∈ tables.partners, partner.id = client.partnerId ∧
      findClientWithPartner tables chosen = some (client, partner) := by
  obtain ⟨partner, listed, same⟩ := tables.owned client (List.mem_of_find?_eq_some found)
  have joined : tables.findPartner client.partnerId = some partner :=
    tables.findPartner_iff.mpr ⟨listed, same⟩
  refine ⟨partner, listed, same, ?_⟩
  rw [findClientWithPartner, found, Option.bind_some, joined]
  rfl

/-- All scopes are among themselves. -/
theorem filter_own (scopes : List String) : scopes.filter (scopes.contains ·) = scopes :=
  List.filter_eq_self.mpr fun _ listed => List.contains_iff_mem.mpr listed

/-- A token is worth nothing without its client, nothing while its partner is disabled, and
otherwise all that it says. -/
theorem authenticate_signed (sound : Sound libraries tables) {payload : PartnerJwtPayload}
    (listed : payload ∈ tables.signed) :
    (∀ client ∈ tables.clients, client.id ≠ payload.sub) ∧
        authenticateAccessToken libraries tables payload =
          .error (.unauthorized "Partner client is not active") ∨
      ∃ partner ∈ tables.partners, partner.id = payload.partnerId ∧
        authenticateAccessToken libraries tables payload =
          if partner.status = .ACTIVE then
            .ok ⟨payload.partnerId, partner.name, .ACTIVE, payload.clientId, payload.scopes⟩
          else .error (.unauthorized "Partner is disabled") := by
  cases found : tables.clients.find? fun client => decide (client.id = payload.sub) with
  | none =>
    left
    constructor
    · intro client stored same
      exact List.find?_eq_none.mp found client stored (decide_eq_true same)
    · rw [authenticateAccessToken, findClientWithPartner, found]
      rfl
  | some client =>
    right
    obtain ⟨partner, stored, owner, joined⟩ := findClientWithPartner_eq tables found
    have member := List.mem_of_find?_eq_some found
    have same : client.id = payload.sub := by simpa using List.find?_some found
    have described := (sound.tokens payload listed).client client member same
    subst described
    refine ⟨partner, stored, owner, ?_⟩
    have ours : partner.id = (tokenPayload libraries client).partnerId := owner
    rw [authenticateAccessToken, joined]
    dsimp only
    rw [if_neg (not_not_intro (sound.active client member))]
    by_cases enabled : partner.status = .ACTIVE
    case neg => rw [if_pos enabled, if_neg enabled]
    case pos =>
      have own : client.partnerId = (tokenPayload libraries client).partnerId := rfl
      rw [if_neg (not_not_intro enabled), if_neg (not_not_intro own), if_pos enabled, ours, enabled]
      exact congrArg (fun scopes => Except.ok (AuthenticatedPartner.mk _ _ _ _ scopes))
        (filter_own _)

/-- The tables before any call. -/
def opened (tables : PartnerTables) : System PartnerTables Write DatabaseError Failure := ⟨tables, []⟩

/-- In every interleaving every token that was ever signed is worth all the scopes that it was
signed with, or nothing; and its partner is never found to be another one. -/
theorem tokens_whole_or_nothing (sound : Sound libraries tables) (actions : List (Action Request)) :
    Along (step commit (handle libraries)) (fun _ _ next => ∀ payload ∈ next.store.signed,
      (∀ client ∈ next.store.clients, client.id ≠ payload.sub) ∧
          authenticateAccessToken libraries next.store payload =
            .error (.unauthorized "Partner client is not active") ∨
        ∃ partner ∈ next.store.partners, partner.id = payload.partnerId ∧
          authenticateAccessToken libraries next.store payload =
            if partner.status = .ACTIVE then
              .ok ⟨payload.partnerId, partner.name, .ACTIVE, payload.clientId, payload.scopes⟩
            else .error (.unauthorized "Partner is disabled"))
      (opened tables) actions := by
  have nobody : (opened tables).Knows (Sound libraries) (Later libraries) (Vouched libraries) := by
    intro program listed
    cases listed
  have stays : ∀ before action next, Sound libraries before.store ∧
      before.Knows (Sound libraries) (Later libraries) (Vouched libraries) →
      step commit (handle libraries) before action = some next →
      Sound libraries next.store ∧
        next.Knows (Sound libraries) (Later libraries) (Vouched libraries) :=
    fun before action next both moved =>
      step_knows later_refl later_trans commit_later handle_knows both.1 both.2 moved
  refine along_of_invariant (fun system => Sound libraries system.store ∧
    system.Knows (Sound libraries) (Later libraries) (Vouched libraries)) ?_ ?_ ⟨sound, nobody⟩
    (along_true _ _ actions)
  · exact fun before action next both _ moved => stays before action next both moved
  · intro before action next both _ moved payload listed
    exact authenticate_signed (stays before action next both moved).1 listed

/-- Once a client is gone, no token in its name is accepted any more, also if a request for
one was under way, and whatever happens afterwards. -/
theorem revoked_for_good (sound : Sound libraries tables) {before after : List (Action Request)}
    {middle last : System PartnerTables Write DatabaseError Failure} {payload : PartnerJwtPayload}
    (reached : run (step commit (handle libraries)) (opened tables) before = some middle)
    (numbered : payload.sub < middle.store.nextId)
    (gone : ∀ client ∈ middle.store.clients, client.id ≠ payload.sub)
    (continued : run (step commit (handle libraries)) middle after = some last) :
    authenticateAccessToken libraries last.store payload =
      .error (.unauthorized "Partner client is not active") := by
  have nobody : (opened tables).Knows (Sound libraries) (Later libraries) (Vouched libraries) := by
    intro program listed
    cases listed
  have there := (reached_known later_refl later_trans commit_later handle_knows sound nobody
    reached).1
  have onward := (reached_known later_refl later_trans commit_later handle_knows there.1 there.2
    continued).2
  have absent : last.store.clients.find? (fun client => decide (client.id = payload.sub)) = none := by
    apply List.find?_eq_none.mpr
    intro client listed chosen
    have same := of_decide_eq_true chosen
    obtain ⟨old, stored, sameToken⟩ := onward.clients client listed (same ▸ numbered)
    exact gone old stored ((congrArg PartnerJwtPayload.sub sameToken).trans same)
  rw [authenticateAccessToken, findClientWithPartner, absent]
  rfl

end Tokens

/-! ## An insurer who leaves -/

/-- Libraries that hash nothing and compare by equality. -/
def plainLibraries : Libraries where
  hash := fun secret => secret
  compare := fun secret stored => secret == stored
  localeCompare := fun left right => compareOfLessAndEq left right

/-- Tables without partners. -/
def noTables : PartnerTables where
  partners := []
  clients := []
  signed := []
  nextId := 0
  partnerKeys := List.nodup_nil
  clientKeys := List.nodup_nil
  numbered := by
    intro client listed
    cases listed
  partnersNumbered := by
    intro partner listed
    cases listed
  owned := by
    intro client listed
    cases listed

/-- Tables without partners are sound. -/
theorem noTables_sound (libraries : Libraries) : Sound libraries noTables where
  tokens := by
    intro payload listed
    cases listed
  active := by
    intro client listed
    cases listed

/-- An insurer asks for a token and is deleted before it is signed. -/
def leaving : List (Action Request) :=
  [.submit (.createInsurer "Radiant" "client_radiant" "secret"), .advance 0,
    .submit (.issueToken "client_radiant" "secret"), .advance 1,
    .submit (.deleteInsurer 0), .advance 2]

/-- The token that an insurer gets. -/
def insurerToken : PartnerJwtPayload :=
  ⟨1, 0, "client_radiant", ["insurer:read", "webhooks:write"]⟩

/-- A credential is deleted while its token is in use. -/
theorem leaving_tokens :
    Along (step commit (handle plainLibraries)) (fun _ _ next => ∀ payload ∈ next.store.signed,
      (∀ client ∈ next.store.clients, client.id ≠ payload.sub) ∧
          authenticateAccessToken plainLibraries next.store payload =
            .error (.unauthorized "Partner client is not active") ∨
        ∃ partner ∈ next.store.partners, partner.id = payload.partnerId ∧
          authenticateAccessToken plainLibraries next.store payload =
            if partner.status = .ACTIVE then
              .ok ⟨payload.partnerId, partner.name, .ACTIVE, payload.clientId, payload.scopes⟩
            else .error (.unauthorized "Partner is disabled"))
      (opened noTables) leaving :=
  tokens_whole_or_nothing (noTables_sound plainLibraries) leaving

/-- A token that is signed late is refused. -/
theorem late_token_worthless : ∃ middle last,
    run (step commit (handle plainLibraries)) (opened noTables) leaving = some middle ∧
      run (step commit (handle plainLibraries)) middle [.advance 1] = some last ∧
      authenticateAccessToken plainLibraries last.store insurerToken =
        .error (.unauthorized "Partner client is not active") := by
  refine ⟨_, _, rfl, rfl, ?_⟩
  exact @revoked_for_good plainLibraries noTables (noTables_sound plainLibraries) leaving
    [.advance 1] _ _ insurerToken rfl (by decide) (by decide) rfl

end EmotoFleet.PartnerTokens
