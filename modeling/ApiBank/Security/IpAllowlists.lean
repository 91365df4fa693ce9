import ApiBank.Auth.Models
import Mathlib.Algebra.Ring.Nat

/-!
# IP allowlists

An API key and the admin area may each have a list of networks. Both checks stop a client
whose address parses and lies in none of them. A request without a client address, or with
one that does not parse, passes both of them whatever is listed, and the admin area lets
everyone in when the read of its list raises.
-/

namespace ApiBank.Security.IpAllowlists

open ApiBank.Auth ApiBank.Db ApiBank.Relational

set_option autoImplicit false

inductive IpVersion where
  | v4
  | v6
deriving DecidableEq, Repr

structure IpAddress where
  version : IpVersion
  ip : Nat
deriving DecidableEq, Repr

structure IpNetwork where
  version : IpVersion
  networkAddress : Nat
  netmask : Nat
deriving DecidableEq, Repr

/-- `ip_address` and `ip_network(strict=False)` of a text; neither value where they raise
`ValueError`, as for the empty address. -/
structure Ipaddress where
  ipAddress : String → Option IpAddress
  ipNetwork : String → Option IpNetwork
  ipAddress_empty : ipAddress "" = none

/-- `address in network`. -/
def IpNetwork.contains (network : IpNetwork) (address : IpAddress) : Bool :=
  network.version = address.version &&
    address.ip &&& network.netmask = network.networkAddress

section Checks

variable (ipaddress : Ipaddress)

/-- The loop over the list: a network with the address ends it, a text that is no network
is passed over. -/
def allowed (address : IpAddress) : List String → Bool
  | [] => false
  | cidr :: rest =>
      match ipaddress.ipNetwork cidr with
      | none => allowed address rest
      | some network => if network.contains address then true else allowed address rest

/-- The check in `authenticated_api_key`. -/
def checkKeyAllowlist (allowlist : List String) (clientHost : Option String) :
    Except Error Unit :=
  match clientHost with
  | none => .ok ()
  | some host =>
      if allowlist.isEmpty || host = "" then .ok ()
      else
        match ipaddress.ipAddress host with
        | none => .ok ()
        | some clientIp =>
            if allowed ipaddress clientIp allowlist then .ok ()
            else .error (.httpException 403 "ip not allowlisted for this api key")

/-- The check in `current_admin_user`. -/
def checkAdminAllowlist (allowlist : List String) (client : Option String) :
    Except Error Unit :=
  match client with
  | none => .ok ()
  | some host =>
      if allowlist.isEmpty then .ok ()
      else
        match ipaddress.ipAddress host with
        | none => .ok ()
        | some ip =>
            if allowed ipaddress ip allowlist then .ok ()
            else .error (.httpException 403 "admin ip not allowlisted")

end Checks

structure ApiKey where
  id : String
  keyHash : String
  ipAllowlistJson : List String
  lastUsedAt : Option DateTime
  lastUsedIp : Option String
  expiresAt : Option DateTime
  revokedAt : Option DateTime
deriving DecidableEq, Repr

/-- `hash_api_key` under the configured salt, and `str.strip`. -/
structure KeyService where
  ipaddress : Ipaddress
  hashApiKey : String → String
  strip : String → String

/-- The header and `request.client.host`. -/
structure Request where
  authorization : Option String
  client : Option String
deriving DecidableEq, Repr

def resolveApiKey (service : KeyService) (apiKeys : Table ApiKey.id) (rawKey : String) :
    Option ApiKey :=
  apiKeys.rows.find? fun apiKey =>
    apiKey.keyHash = service.hashApiKey rawKey && apiKey.revokedAt.isNone

/-- `expires_at < now`, where a time without a zone counts as UTC. -/
def ApiKey.expired (apiKey : ApiKey) (now : Int) : Bool :=
  apiKey.expiresAt.any fun expiresAt => expiresAt.aware.instant < now

/-- The update of the last use. -/
def ApiKey.used (apiKey : ApiKey) (request : Request) (now : Int) : ApiKey := { apiKey with
  lastUsedAt := some (.utc now)
  lastUsedIp := match request.client with
    | none => apiKey.lastUsedIp
    | some host =>
        if host = "" then apiKey.lastUsedIp else some (String.ofList (host.toList.take 64)) }

def bearer : String := "Bearer "

def authenticatedApiKey (service : KeyService) (apiKeys : Table ApiKey.id) (request : Request)
    (now : Int) : Except Error ApiKey := do
  let missing := Error.httpException 401 "missing api key"
  let authorization ← (request.authorization.elim (.error missing) .ok : Except Error String)
  if !bearer.toList.isPrefixOf authorization.toList then throw missing
  let rawKey := service.strip (String.ofList (authorization.toList.drop bearer.toList.length))
  match resolveApiKey service apiKeys rawKey with
  | none => throw (.httpException 401 "invalid api key")
  | some apiKey =>
      if apiKey.expired now then throw (.httpException 401 "api key expired")
      checkKeyAllowlist service.ipaddress apiKey.ipAllowlistJson request.client
      return apiKey.used request now

/-- The payload that the route for the admin security stores. -/
structure AdminSecurity where
  ipAllowlist : List String
  require2fa : Bool
deriving DecidableEq, Repr

/-- No row, or a read that fails. -/
def AdminSecurity.empty : AdminSecurity where
  ipAllowlist := []
  require2fa := false

/-- `get_config` of the stored payload, which may raise. -/
def getConfig (stored : Option AdminSecurity) (failure : Option Error) :
    Except Error AdminSecurity :=
  match failure with
  | some error => .error error
  | none => .ok (stored.getD .empty)

/-- The payload that `current_admin_user` goes on with: whatever `get_config` raises is taken
for an empty configuration. -/
def configOf (stored : Option AdminSecurity) (failure : Option Error) : AdminSecurity :=
  match getConfig stored failure with
  | .ok cfg => cfg
  | .error _ => .empty

/-- `current_admin_user`, for the user of the login session. -/
def currentAdminUser (ipaddress : Ipaddress) (db : Accounts) (stored : Option AdminSecurity)
    (failure : Option Error) (user : Auth.User) (client : Option String) :
    Except Error Auth.User := do
  if user.role ≠ "admin" ∧ user.role ≠ "owner" then throw (.httpException 403 "admin only")
  let cfg := configOf stored failure
  checkAdminAllowlist ipaddress cfg.ipAllowlist client
  if cfg.require2fa && ((db.twoFactors.find? user.id).bind TwoFactor.enabledAt).isNone then
    throw (.httpException 403 "admin 2FA required; please enroll first")
  return user

def Parses (ipaddress : Ipaddress) (client : Option String) : Prop :=
  ∃ host address, client = some host ∧ ipaddress.ipAddress host = some address

def Lies (ipaddress : Ipaddress) (allowlist : List String) (client : Option String) : Prop :=
  ∃ host address, client = some host ∧ ipaddress.ipAddress host = some address ∧
    ∃ cidr ∈ allowlist, ∃ network, ipaddress.ipNetwork cidr = some network ∧
      network.contains address = true

section Checks

variable {ipaddress : Ipaddress} {allowlist : List String} {client : Option String}

theorem allowed_iff (address : IpAddress) : allowed ipaddress address allowlist = true ↔
    ∃ cidr ∈ allowlist, ∃ network, ipaddress.ipNetwork cidr = some network ∧
      network.contains address = true := by
  induction allowlist with
  | nil => simp [allowed]
  | cons cidr rest ih =>
      simp only [allowed, List.exists_mem_cons_iff]
      cases parsed : ipaddress.ipNetwork cidr with
      | none => simp [ih]
      | some network => simp [ih]

/-- Whether a client passes either check: not when its address parses and lies outside. -/
theorem checkKeyAllowlist_ok_iff (filled : allowlist ≠ []) :
    checkKeyAllowlist ipaddress allowlist client = .ok () ↔
      (Parses ipaddress client → Lies ipaddress allowlist client) := by
  have entries : allowlist.isEmpty = false := by simpa using filled
  cases client with
  | none => simp [checkKeyAllowlist, Parses]
  | some host =>
      by_cases empty : host = ""
      · simp [checkKeyAllowlist, Parses, empty, ipaddress.ipAddress_empty]
      · cases parsed : ipaddress.ipAddress host with
        | none => simp [checkKeyAllowlist, Parses, parsed]
        | some address =>
            simp only [checkKeyAllowlist, entries, empty, parsed, Bool.false_or, decide_false,
              Bool.false_eq_true, if_false, Parses, Lies, Option.some.injEq, exists_and_left,
              exists_eq_left', ← allowed_iff]
            cases allowed ipaddress address allowlist <;> simp

theorem checkAdminAllowlist_ok_iff (filled : allowlist ≠ []) :
    checkAdminAllowlist ipaddress allowlist client = .ok () ↔
      (Parses ipaddress client → Lies ipaddress allowlist client) := by
  have entries : allowlist.isEmpty = false := by simpa using filled
  cases client with
  | none => simp [checkAdminAllowlist, Parses]
  | some host =>
      cases parsed : ipaddress.ipAddress host with
      | none => simp [checkAdminAllowlist, Parses, parsed]
      | some address =>
          simp only [checkAdminAllowlist, entries, parsed, Bool.false_eq_true, if_false, Parses,
            Lies, Option.some.injEq, exists_and_left, exists_eq_left', ← allowed_iff]
          cases allowed ipaddress address allowlist <;> simp

end Checks

section Requests

/-- A request whose header names a key that is neither revoked nor expired. -/
structure Presents (service : KeyService) (apiKeys : Table ApiKey.id) (request : Request)
    (now : Int) (apiKey : ApiKey) : Prop where
  header : ∃ authorization, request.authorization = some authorization ∧
    bearer.toList <+: authorization.toList ∧ resolveApiKey service apiKeys
      (service.strip (String.ofList (authorization.toList.drop bearer.toList.length))) =
        some apiKey
  running : apiKey.expired now = false

theorem authenticatedApiKey_ok_iff {service : KeyService} {apiKeys : Table ApiKey.id}
    {request : Request} {now : Int} {key : ApiKey} :
    authenticatedApiKey service apiKeys request now = .ok key ↔
      ∃ apiKey, Presents service apiKeys request now apiKey ∧
        checkKeyAllowlist service.ipaddress apiKey.ipAllowlistJson request.client = .ok () ∧
          key = apiKey.used request now := by
  constructor
  · intro accepted
    rw [authenticatedApiKey] at accepted
    cases header : request.authorization with
    | none => simp [header, bind, Except.bind] at accepted
    | some authorization =>
        simp only [header, Option.elim_some, bind, Except.bind, throw, throwThe,
          MonadExceptOf.throw, pure, Except.pure] at accepted
        split at accepted
        · cases accepted
        · rename_i scheme
          have prefixed : bearer.toList <+: authorization.toList := by
            simpa using scheme
          split at accepted
          · cases accepted
          · rename_i apiKey resolved
            split at accepted
            · cases accepted
            · rename_i running
              split at accepted
              · cases accepted
              · rename_i passed
                refine ⟨apiKey, ⟨⟨authorization, header, prefixed, resolved⟩, ?_⟩, passed, ?_⟩
                · simpa using running
                · exact (Except.ok.inj accepted).symm
  · intro shape
    obtain ⟨apiKey, ⟨⟨authorization, header, prefixed, resolved⟩, running⟩, passed, rfl⟩ := shape
    have scheme := List.isPrefixOf_iff_prefix.mpr prefixed
    simp [authenticatedApiKey, header, bind, Except.bind, scheme, resolved, running, passed]
    rfl

def Administers (db : Accounts) (cfg : AdminSecurity) (user : Auth.User) : Prop :=
  (user.role = "admin" ∨ user.role = "owner") ∧
    (cfg.require2fa = true → ∃ enabledAt,
      (db.twoFactors.find? user.id).bind TwoFactor.enabledAt = some enabledAt)

theorem currentAdminUser_ok_iff {ipaddress : Ipaddress} {db : Accounts}
    {stored : Option AdminSecurity} {failure : Option Error} {user admin : Auth.User}
    {client : Option String} :
    currentAdminUser ipaddress db stored failure user client = .ok admin ↔
      Administers db (configOf stored failure) user ∧
        checkAdminAllowlist ipaddress (configOf stored failure).ipAllowlist client = .ok () ∧
          admin = user := by
  constructor
  · intro accepted
    simp only [currentAdminUser, bind, Except.bind, throw, throwThe, MonadExceptOf.throw, pure,
      Except.pure] at accepted
    split at accepted
    · cases accepted
    · rename_i role
      split at accepted
      · cases accepted
      · rename_i passed
        split at accepted
        · cases accepted
        · rename_i factor
          refine ⟨⟨?_, ?_⟩, passed, (Except.ok.inj accepted).symm⟩
          · by_contra other
            exact role (not_or.mp other)
          · intro required
            rw [required, Bool.true_and, Option.isNone_iff_eq_none] at factor
            exact Option.ne_none_iff_exists'.mp factor
  · intro shape
    obtain ⟨⟨role, factor⟩, passed, rfl⟩ := shape
    have admitted : ¬(admin.role ≠ "admin" ∧ admin.role ≠ "owner") := by
      rwa [← not_or, not_not]
    have enrolled : ¬((configOf stored failure).require2fa &&
        ((db.twoFactors.find? admin.id).bind TwoFactor.enabledAt).isNone) = true := by
      intro missing
      rw [Bool.and_eq_true, Option.isNone_iff_eq_none] at missing
      obtain ⟨enabledAt, enabled⟩ := factor missing.1
      rw [missing.2] at enabled
      cases enabled
    simp only [currentAdminUser, bind, Except.bind, if_neg admitted, passed, if_neg enrolled,
      pure, Except.pure]

def KeyAccepts (ipaddress : Ipaddress) (allowlist : List String) (client : Option String) :
    Prop :=
  ∃ service apiKeys request now key, service.ipaddress = ipaddress ∧ request.client = client ∧
    authenticatedApiKey service apiKeys request now = .ok key ∧ key.ipAllowlistJson = allowlist

/-- Some request to the admin area with this list stored comes in from this client, when the read
of the list ends like this. -/
def AdminAccepts (ipaddress : Ipaddress) (allowlist : List String) (failure : Option Error)
    (client : Option String) : Prop :=
  ∃ db cfg user admin, cfg.ipAllowlist = allowlist ∧
    currentAdminUser ipaddress db (some cfg) failure user client = .ok admin

variable {ipaddress : Ipaddress} {allowlist : List String} {client : Option String}
  {failure : Option Error}

/-- One key, which every header with the scheme names. -/
def soleKey (ipaddress : Ipaddress) : KeyService where
  ipaddress := ipaddress
  hashApiKey := id
  strip := id

def listedKey (allowlist : List String) : ApiKey where
  id := "ak_1"
  keyHash := ""
  ipAllowlistJson := allowlist
  lastUsedAt := none
  lastUsedIp := none
  expiresAt := none
  revokedAt := none

theorem keyAccepts_iff : KeyAccepts ipaddress allowlist client ↔
    checkKeyAllowlist ipaddress allowlist client = .ok () := by
  constructor
  · intro accepts
    obtain ⟨service, apiKeys, request, now, key, rfl, rfl, accepted, rfl⟩ := accepts
    obtain ⟨apiKey, presents, passed, rfl⟩ := authenticatedApiKey_ok_iff.mp accepted
    exact passed
  · intro passed
    refine ⟨soleKey ipaddress, ⟨[listedKey allowlist], by simp⟩, ⟨some bearer, client⟩, 0,
      (listedKey allowlist).used ⟨some bearer, client⟩ 0, rfl, rfl, ?_, rfl⟩
    refine authenticatedApiKey_ok_iff.mpr ⟨listedKey allowlist, ⟨⟨bearer, rfl, ?_, ?_⟩, rfl⟩,
      passed, rfl⟩
    · exact List.prefix_rfl
    · simp [resolveApiKey, soleKey, listedKey]

/-- An administrator without a second factor, where none is required. -/
def soleOwner : Auth.User :=
  ⟨"u1", "root@example.com", none, "", none, "owner", .active, none, 0, none⟩

theorem administers_soleOwner {cfg : AdminSecurity} (optional : cfg.require2fa = false) :
    Administers .empty cfg soleOwner := by
  refine ⟨.inr rfl, ?_⟩
  intro required
  rw [optional] at required
  cases required

theorem adminAccepts_iff : AdminAccepts ipaddress allowlist none client ↔
    checkAdminAllowlist ipaddress allowlist client = .ok () := by
  constructor
  · intro accepts
    obtain ⟨db, cfg, user, admin, rfl, accepted⟩ := accepts
    exact (currentAdminUser_ok_iff.mp accepted).2.1
  · intro passed
    exact ⟨.empty, ⟨allowlist, false⟩, soleOwner, _, rfl,
      currentAdminUser_ok_iff.mpr ⟨administers_soleOwner rfl, passed, rfl⟩⟩

/-- A read that raises lets every client in. -/
theorem adminAccepts_of_failure (error : Error) :
    AdminAccepts ipaddress allowlist (some error) client := by
  refine ⟨.empty, ⟨allowlist, false⟩, soleOwner, _, rfl,
    currentAdminUser_ok_iff.mpr ⟨administers_soleOwner rfl, ?_, rfl⟩⟩
  cases client <;> rfl

theorem parses_of_lies (lies : Lies ipaddress allowlist client) : Parses ipaddress client := by
  obtain ⟨host, address, named, parsed, -⟩ := lies
  exact ⟨host, address, named, parsed⟩

/-- A list of networks keeps out everyone who does not lie in one, and both copies let the same
clients in, exactly when the client has an address that parses and lies in a network if the
read of the stored list raises: without such an address both copies let everyone in, and after
such a read the admin area does. -/
theorem allowlists_fail_closed_iff (ipaddress : Ipaddress) {allowlist : List String}
    (filled : allowlist ≠ []) (failure : Option Error) (client : Option String) :
    ((KeyAccepts ipaddress allowlist client ↔ AdminAccepts ipaddress allowlist failure client) ∧
      (KeyAccepts ipaddress allowlist client → Lies ipaddress allowlist client) ∧
        (AdminAccepts ipaddress allowlist failure client → Lies ipaddress allowlist client)) ↔
      Parses ipaddress client ∧ (failure.isSome → Lies ipaddress allowlist client) := by
  have keys : KeyAccepts ipaddress allowlist client ↔
      (Parses ipaddress client → Lies ipaddress allowlist client) := by
    rw [keyAccepts_iff, checkKeyAllowlist_ok_iff filled]
  cases failure with
  | none =>
      have admins : AdminAccepts ipaddress allowlist none client ↔
          (Parses ipaddress client → Lies ipaddress allowlist client) := by
        rw [adminAccepts_iff, checkAdminAllowlist_ok_iff filled]
      rw [keys, admins]
      constructor
      · intro closed
        have parses : Parses ipaddress client := by
          by_contra unparsed
          exact unparsed (parses_of_lies (closed.2.1 fun parses => absurd parses unparsed))
        exact ⟨parses, fun failed => absurd failed Bool.false_ne_true⟩
      · intro holds
        exact ⟨Iff.rfl, fun lies => lies holds.1, fun lies => lies holds.1⟩
  | some error =>
      have admits : AdminAccepts ipaddress allowlist (some error) client :=
        adminAccepts_of_failure error
      rw [keys]
      constructor
      · intro closed
        have lies := closed.2.2 admits
        exact ⟨parses_of_lies lies, fun _ => lies⟩
      · intro holds
        have lies := holds.2 rfl
        exact ⟨iff_of_true (fun _ => lies) admits, fun _ => lies, fun _ => lies⟩

end Requests

section Fixtures

/-- An octet of an IPv4 address. -/
def octet (digits : List Char) : Option Nat :=
  let value := digits.foldl (fun value digit => 10 * value + (digit.toNat - 48)) 0
  if digits.isEmpty || 3 < digits.length || !digits.all Char.isDigit then none
  else if digits.head? = some '0' && 1 < digits.length then none
  else if 255 < value then none else some value

def dottedQuad (text : List Char) : Option Nat :=
  match (text.splitOn '.').map octet with
  | [some first, some second, some third, some fourth] =>
      some (((first * 256 + second) * 256 + third) * 256 + fourth)
  | _ => none

/-- The netmask of a prefix length, or of the whole address. -/
def netmaskOf : List (List Char) → Option Nat
  | [] => some (2 ^ 32 - 1)
  | [digits] =>
      (octet digits).bind fun length =>
        if length ≤ 32 then some (2 ^ 32 - 2 ^ (32 - length)) else none
  | _ => none

def ipv4 : Ipaddress where
  ipAddress := fun text => (dottedQuad text.toList).map fun ip => ⟨.v4, ip⟩
  ipNetwork := fun text =>
    match text.toList.splitOn '/' with
    | [] => none
    | address :: rest =>
        (dottedQuad address).bind fun ip =>
          (netmaskOf rest).map fun netmask => ⟨.v4, ip &&& netmask, netmask⟩
  ipAddress_empty := by decide

/-- A client inside the network, whose address is read from a list that is found. -/
theorem private_network_is_enforced :
    (KeyAccepts ipv4 ["no network", "10.0.0.0/8"] (some "10.1.2.3") ↔
        AdminAccepts ipv4 ["no network", "10.0.0.0/8"] none (some "10.1.2.3")) ∧
      (KeyAccepts ipv4 ["no network", "10.0.0.0/8"] (some "10.1.2.3") →
        Lies ipv4 ["no network", "10.0.0.0/8"] (some "10.1.2.3")) ∧
      (AdminAccepts ipv4 ["no network", "10.0.0.0/8"] none (some "10.1.2.3") →
        Lies ipv4 ["no network", "10.0.0.0/8"] (some "10.1.2.3")) := by
  refine (allowlists_fail_closed_iff ipv4 (by decide) none (some "10.1.2.3")).mpr ⟨?_, ?_⟩
  · exact ⟨"10.1.2.3", ⟨.v4, 167838211⟩, rfl, by decide⟩
  · intro failed
    cases failed

/-- Behind a proxy that does not name the client, without a client at all, and from elsewhere
when the read of the stored list raises. -/
theorem unknown_client_is_let_in :
    (KeyAccepts ipv4 ["10.0.0.0/8"] (some "unknown") ∧
      AdminAccepts ipv4 ["10.0.0.0/8"] none (some "unknown") ∧
        ¬Lies ipv4 ["10.0.0.0/8"] (some "unknown")) ∧
    (KeyAccepts ipv4 ["10.0.0.0/8"] none ∧ AdminAccepts ipv4 ["10.0.0.0/8"] none none ∧
      ¬Lies ipv4 ["10.0.0.0/8"] none) ∧
    ¬KeyAccepts ipv4 ["10.0.0.0/8"] (some "192.0.2.7") ∧
      AdminAccepts ipv4 ["10.0.0.0/8"] (some .dbapiError) (some "192.0.2.7") := by
  have unparsed : ipv4.ipAddress "unknown" = none := by decide
  refine ⟨⟨keyAccepts_iff.mpr ?_, adminAccepts_iff.mpr ?_, ?_⟩,
    ⟨keyAccepts_iff.mpr rfl, adminAccepts_iff.mpr rfl, ?_⟩, ?_, adminAccepts_of_failure _⟩
  · simp [checkKeyAllowlist, unparsed]
  · simp [checkAdminAllowlist, unparsed]
  · simp [Lies, unparsed]
  · simp [Lies]
  · intro accepts
    have passed := keyAccepts_iff.mp accepts
    have stopped : checkKeyAllowlist ipv4 ["10.0.0.0/8"] (some "192.0.2.7") ≠ .ok () := by decide
    exact stopped passed

end Fixtures

end ApiBank.Security.IpAllowlists
