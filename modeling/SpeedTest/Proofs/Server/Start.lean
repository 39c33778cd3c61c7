import SpeedTest.Server.Script
import SpeedTest.Proofs.Program

/-! What a start leaves behind, on a machine that may answer as it likes: a loop for each port, or
none at all. -/

namespace SpeedTest.Server

/-- A request of a server and its answer, or `none` where the answer never comes. -/
abbrev Exchange := (e : Request) × Option (Answer e)

/-- Whether an exchange went as a server would have it. -/
def Exchange.isGranted : Exchange → Bool
  | ⟨.load _ _, a⟩ => a.any Except.isOk
  | ⟨.resolve _, a⟩ => a.any Except.isOk
  | ⟨.bind _, a⟩ => a.any Except.isOk
  | ⟨_, a⟩ => a.isSome

/-- The accept loops that were started, each with what it does and where. -/
def launches (t : List Exchange) : List (Service × Port) :=
  t.filterMap fun
    | ⟨.spawn a service, some loop⟩ => some (service, ⟨a, loop⟩)
    | _ => none

/-- The credentials that were loaded. -/
def loaded (t : List Exchange) : Option Tls.Credentials :=
  t.findSome? fun
    | ⟨.load _ _, some (.ok k)⟩ => some k
    | _ => none

/-- The loops that are there after an exchange. -/
def enter (loops : List LoopId) : Exchange → List LoopId
  | ⟨.spawn _ _, some loop⟩ => loops ++ [loop]
  | ⟨.abort loop, some ()⟩ => loops.filter (· ≠ loop)
  | _ => loops

/-- The loops that were started and not aborted since. -/
def left (t : List Exchange) : List LoopId := t.foldl enter []

/-- A text has been found to stand for an address, listening on which has given this one. -/
def IsBound (t : List Exchange) (text : String) (bound : SocketAddress) : Prop :=
  ∃ a, ⟨.resolve text, some (.ok a)⟩ ∈ t ∧ ⟨.bind a, some (.ok bound)⟩ ∈ t

/-- The services of a running server with their ports, in the order in which they were started. -/
def Running.services (c : ServerConfig) (k : Option Tls.Credentials) (r : Running) :
    List (Service × Port) :=
  (.ofHttp c, r.http) ::
    ((k.bind fun k => r.tls.map fun p => (.ofTls c k, p)).toList ++
      [(.ofLegacy c r.http.address, r.legacy)])

theorem Running.loop_services (r : Running) (c : ServerConfig) {k : Option Tls.Credentials}
    (h : r.tls.isSome = k.isSome) : (r.services c k).map (fun x => x.2.loop) = r.loops := by
  cases k with
  | none =>
      have hNone : r.tls = none := by simpa using h
      simp [services, loops, hNone]
  | some k =>
      obtain ⟨p, hSome⟩ := Option.isSome_iff_exists.mp h
      simp [services, loops, hSome]

theorem IsBound.mono {t u : List Exchange} {text : String} {bound : SocketAddress}
    (h : IsBound t text bound) (hSub : t ⊆ u) : IsBound u text bound := by
  obtain ⟨a, hResolve, hBind⟩ := h
  exact ⟨a, hSub hResolve, hSub hBind⟩

/-- The attempt to open a port, and what comes of it. -/
inductive Opening (text : String) (service : Service) : List Exchange → Except Failure Port → Prop
  | opened (a : SocketAddress) (port : Port) :
      Opening text service
        [⟨.resolve text, some (.ok a)⟩, ⟨.bind a, some (.ok port.address)⟩,
          ⟨.note (listeningEntry port.address), some ()⟩,
          ⟨.spawn port.address service, some port.loop⟩] (.ok port)
  | unresolved (e : IoError) :
      Opening text service [⟨.resolve text, some (.error e)⟩] (.error (resolveFailure text e))
  | unbound (a : SocketAddress) (e : IoError) :
      Opening text service [⟨.resolve text, some (.ok a)⟩, ⟨.bind a, some (.error e)⟩]
        (.error (bindFailure a e))

theorem opening_of_course {text : String} {service : Service} {t : List Exchange}
    {x : Except Failure Port} (h : (openPort text service).Course t (some x)) :
    Opening text service t x := by
  obtain ⟨bound, first, second, hListen, hSpawn, rfl⟩ := h.of_bind
  rw [listen] at hListen
  cases hListen with
  | answered resolved hListen =>
      cases resolved with
      | error e =>
          cases hListen
          cases hSpawn
          exact .unresolved e
      | ok a =>
          cases hListen with
          | answered bound hListen =>
              cases bound with
              | error e =>
                  cases hListen
                  cases hSpawn
                  exact .unbound a e
              | ok bound =>
                  cases hListen with
                  | answered _ hListen =>
                      cases hListen
                      cases hSpawn with
                      | answered loop hSpawn =>
                          cases hSpawn
                          exact .opened a ⟨bound, loop⟩

/-- What a part of a start leaves behind in which all goes well: what was loaded, and what runs. -/
structure Yields (t : List Exchange) (k : Option Tls.Credentials)
    (services : List (Service × Port)) : Prop where
  loaded : loaded t = k
  launches : launches t = services
  enter : ∀ loops, t.foldl enter loops = loops ++ services.map fun x => x.2.loop
  granted : ∀ x ∈ t, x.isGranted = true

theorem Yields.append {t u : List Exchange} {k : Option Tls.Credentials}
    {services services' : List (Service × Port)} (ht : Yields t k services)
    (hu : Yields u none services') : Yields (t ++ u) k (services ++ services') where
  loaded := by
    rw [Server.loaded, List.findSome?_append]
    have hNone := hu.loaded
    rw [Server.loaded] at hNone
    rw [hNone, Option.or_none]
    exact ht.loaded
  launches := by
    have hFirst := ht.launches
    have hSecond := hu.launches
    rw [Server.launches] at hFirst hSecond ⊢
    rw [List.filterMap_append, hFirst, hSecond]
  enter loops := by
    rw [List.foldl_append, ht.enter, hu.enter, List.append_assoc, List.map_append]
  granted x hx := by
    rcases List.mem_append.mp hx with hx | hx
    · exact ht.granted x hx
    · exact hu.granted x hx

theorem Yields.nil : Yields [] none [] := ⟨rfl, rfl, fun loops => by simp, by simp⟩

section Opening

variable {text : String} {service : Service} {t : List Exchange} {port : Port} {e : Failure}

theorem Opening.yields (h : Opening text service t (.ok port)) :
    Yields t none [(service, port)] := by
  cases h with
  | opened a port =>
      exact ⟨rfl, rfl, fun loops => rfl, by simp [Exchange.isGranted, Except.isOk, Except.toBool]⟩

theorem Opening.isBound (h : Opening text service t (.ok port)) : IsBound t text port.address := by
  cases h with
  | opened a port => exact ⟨a, by simp, by simp⟩

theorem Opening.enter_of_error (h : Opening text service t (.error e)) (loops : List LoopId) :
    t.foldl enter loops = loops := by
  cases h <;> rfl

theorem Opening.not_granted (h : Opening text service t (.error e)) :
    ∃ x ∈ t, x.isGranted = false := by
  cases h with
  | unresolved e => exact ⟨_, List.mem_singleton_self _, rfl⟩
  | unbound a e => exact ⟨_, List.mem_cons_of_mem _ (List.mem_singleton_self _), rfl⟩

end Opening

theorem course_giveUp {loops : List LoopId} {e : Failure} {t : List Exchange}
    {x : Except Failure Running} (h : (giveUp loops e).Course t (some x)) :
    t = loops.map (fun loop => ⟨.abort loop, some ()⟩) ∧ x = .error e := by
  rw [giveUp] at h
  induction loops generalizing t with
  | nil => cases h; exact ⟨rfl, rfl⟩
  | cons loop rest ih =>
      cases h with
      | answered _ h =>
          obtain ⟨rfl, hx⟩ := ih h
          exact ⟨rfl, hx⟩

/-- Nothing is left of the loops that are aborted. -/
theorem enter_aborts (aborted loops : List LoopId) (h : ∀ l ∈ loops, l ∈ aborted) :
    (aborted.map fun loop => (⟨.abort loop, some ()⟩ : Exchange)).foldl enter loops = [] := by
  induction aborted generalizing loops with
  | nil => exact List.eq_nil_iff_forall_not_mem.mpr fun l hl => by simpa using h l hl
  | cons a rest ih =>
      refine ih _ fun l hl => ?_
      obtain ⟨hMem, hNe⟩ := List.mem_filter.mp hl
      exact (List.mem_cons.mp (h l hMem)).resolve_left (by simpa using hNe)

section Start

variable {l : ListenConfig} {c : ServerConfig} {t : List Exchange}

/-- What there is to serve over TLS with. -/
inductive Loading (l : ListenConfig) (c : ServerConfig) :
    List Exchange → Except Failure (Option (String × Tls.Credentials)) → Prop
  | idle (hText : l.tlsAddr = none) : Loading l c [] (.ok none)
  | missing {text : String} {e : Failure} (hText : l.tlsAddr = some text)
      (hPaths : c.tlsPaths = .error e) : Loading l c [] (.error e)
  | failed {text cert key : String} (hText : l.tlsAddr = some text)
      (hPaths : c.tlsPaths = .ok (cert, key)) (e : Failure) :
      Loading l c [⟨.load cert key, some (.error e)⟩] (.error (loadFailure cert e))
  | loaded {text cert key : String} (hText : l.tlsAddr = some text)
      (hPaths : c.tlsPaths = .ok (cert, key)) (k : Tls.Credentials) :
      Loading l c [⟨.load cert key, some (.ok k)⟩] (.ok (some (text, k)))

theorem loading_of_course {x : Except Failure (Option (String × Tls.Credentials))}
    (h : (loadFor l c).Course t (some x)) : Loading l c t x := by
  rw [loadFor] at h
  cases hText : l.tlsAddr with
  | none =>
      rw [hText] at h
      cases h
      exact .idle hText
  | some text =>
      rw [hText] at h
      dsimp only at h
      cases hPaths : c.tlsPaths with
      | error e =>
          rw [hPaths] at h
          cases h
          exact .missing hText hPaths
      | ok paths =>
          obtain ⟨cert, key⟩ := paths
          rw [hPaths] at h
          cases h with
          | answered answer h =>
              cases answer with
              | error e => cases h; exact .failed hText hPaths e
              | ok k => cases h; exact .loaded hText hPaths k

theorem Loading.yields {k : Option (String × Tls.Credentials)} (h : Loading l c t (.ok k)) :
    Yields t (k.map Prod.snd) [] ∧ k.map Prod.fst = l.tlsAddr ∧
      (l.tlsAddr.isSome = true → c.tlsPaths.isOk = true) := by
  cases h with
  | idle hText => exact ⟨.nil, hText.symm, by simp [hText]⟩
  | loaded hText hPaths k =>
      refine ⟨⟨rfl, rfl, fun loops => by simp [enter], ?_⟩, hText.symm, fun _ => ?_⟩
      · simp [Exchange.isGranted, Except.isOk, Except.toBool]
      · rw [hPaths]; rfl

/-- The attempt to open the port for WebSocket clients over TLS, if there is to be one. -/
inductive TlsOpening (c : ServerConfig) :
    Option (String × Tls.Credentials) → List Exchange → Except Failure (Option Port) → Prop
  | idle : TlsOpening c none [] (.ok none)
  | opened {text : String} {k : Tls.Credentials} {t : List Exchange} {port : Port}
      (h : Opening text (.ofTls c k) t (.ok port)) :
      TlsOpening c (some (text, k)) t (.ok (some port))
  | failed {text : String} {k : Tls.Credentials} {t : List Exchange} {e : Failure}
      (h : Opening text (.ofTls c k) t (.error e)) : TlsOpening c (some (text, k)) t (.error e)

theorem tlsOpening_of_course {k : Option (String × Tls.Credentials)}
    {x : Except Failure (Option Port)} (h : (openTlsPort c k).Course t (some x)) :
    TlsOpening c k t x := by
  cases k with
  | none => cases h; exact .idle
  | some m =>
      obtain ⟨text, k⟩ := m
      obtain ⟨y, first, second, hOpen, hDone, rfl⟩ := h.of_bind
      cases hDone
      rw [List.append_nil]
      cases y with
      | error e => exact .failed (opening_of_course hOpen)
      | ok port => exact .opened (opening_of_course hOpen)

theorem TlsOpening.yields {k : Option (String × Tls.Credentials)} {tls : Option Port}
    (h : TlsOpening c k t (.ok tls)) :
    tls.isSome = k.isSome ∧
      Yields t none ((k.map Prod.snd).bind fun k => tls.map fun p => (.ofTls c k, p)).toList := by
  cases h with
  | idle => exact ⟨rfl, .nil⟩
  | opened h => exact ⟨rfl, h.yields⟩

theorem TlsOpening.isBound {text : String} {k : Tls.Credentials} {port : Port}
    (h : TlsOpening c (some (text, k)) t (.ok (some port))) : IsBound t text port.address := by
  cases h with
  | opened h => exact h.isBound

/-- The attempt to open all ports. Where it fails, what was started before is aborted. -/
inductive PortsOpening (l : ListenConfig) (c : ServerConfig)
    (k : Option (String × Tls.Credentials)) : List Exchange → Except Failure Running → Prop
  | opened {r : Running} {t u v : List Exchange}
      (hHttp : Opening l.httpAddr (.ofHttp c) t (.ok r.http)) (hTls : TlsOpening c k u (.ok r.tls))
      (hLegacy : Opening l.legacyAddr (.ofLegacy c r.http.address) v (.ok r.legacy)) :
      PortsOpening l c k (t ++ (u ++ (v ++ [⟨.note (readyEntry r), some ()⟩]))) (.ok r)
  | failed {loops : List LoopId} {t : List Exchange} {e : Failure}
      (hLoops : t.foldl enter [] = loops) (hRefused : ∃ x ∈ t, x.isGranted = false) :
      PortsOpening l c k (t ++ loops.map fun loop => ⟨.abort loop, some ()⟩) (.error e)

theorem portsOpening_of_course {k : Option (String × Tls.Credentials)}
    {x : Except Failure Running} (h : (openPorts l c k).Course t (some x)) :
    PortsOpening l c k t x := by
  obtain ⟨http, tHttp, t, hHttp, h, rfl⟩ := h.of_bind
  replace hHttp := opening_of_course hHttp
  cases http with
  | error e =>
      obtain ⟨rfl, rfl⟩ := course_giveUp h
      exact .failed (hHttp.enter_of_error []) hHttp.not_granted
  | ok http =>
      obtain ⟨tls, tTls, t, hTls, h, rfl⟩ := h.of_bind
      replace hTls := tlsOpening_of_course hTls
      cases tls with
      | error e =>
          obtain ⟨rfl, rfl⟩ := course_giveUp h
          cases hTls with
          | failed hTls =>
              rw [← List.append_assoc]
              refine .failed ?_ ?_
              · rw [List.foldl_append, hHttp.yields.enter, hTls.enter_of_error]
                rfl
              · obtain ⟨x, hx, hRefused⟩ := hTls.not_granted
                exact ⟨x, List.mem_append_right _ hx, hRefused⟩
      | ok tls =>
          obtain ⟨legacy, tLegacy, t, hLegacy, h, rfl⟩ := h.of_bind
          replace hLegacy := opening_of_course hLegacy
          cases legacy with
          | error e =>
              obtain ⟨rfl, rfl⟩ := course_giveUp h
              rw [← List.append_assoc, ← List.append_assoc]
              refine .failed ?_ ?_
              · rw [List.foldl_append, List.foldl_append, hHttp.yields.enter, hTls.yields.2.enter,
                  hLegacy.enter_of_error]
                cases hTls <;> rfl
              · obtain ⟨x, hx, hRefused⟩ := hLegacy.not_granted
                exact ⟨x, List.mem_append_right _ hx, hRefused⟩
          | ok legacy =>
              cases h with
              | answered _ h =>
                  cases h
                  exact .opened (r := ⟨legacy, http, tls⟩) hHttp hTls hLegacy

/-- A server that runs: what it has loaded, what it serves and where. -/
structure IsRunning (l : ListenConfig) (c : ServerConfig) (t : List Exchange) (r : Running) :
    Prop where
  services : launches t = r.services c (loaded t)
  loops : left t = r.loops
  tls : r.tls.isSome = l.tlsAddr.isSome
  loaded : (loaded t).isSome = l.tlsAddr.isSome
  http : IsBound t l.httpAddr r.http.address
  legacy : IsBound t l.legacyAddr r.legacy.address
  secure : ∀ text p, l.tlsAddr = some text → r.tls = some p → IsBound t text p.address

/-- A start that goes well. -/
theorem isRunning_of_course {r : Running} (h : (start l c).Course t (some (.ok r))) :
    IsRunning l c t r ∧ (l.tlsAddr.isSome = true → c.tlsPaths.isOk = true) ∧
      ∀ x ∈ t, x.isGranted = true := by
  obtain ⟨k, tLoad, t, hLoad, h, rfl⟩ := h.of_bind
  replace hLoad := loading_of_course hLoad
  cases k with
  | error e => cases h
  | ok k =>
      obtain ⟨hLoaded, hText, hPaths⟩ := hLoad.yields
      cases portsOpening_of_course h with
      | @opened _ tHttp tTls tLegacy hHttp hTls hLegacy =>
          obtain ⟨hSome, hSecure⟩ := hTls.yields
          have hNote : Yields [⟨.note (readyEntry r), some ()⟩] none [] :=
            ⟨rfl, rfl, fun loops => by simp [enter], by simp [Exchange.isGranted]⟩
          have hAll := hLoaded.append
            (hHttp.yields.append (hSecure.append (hLegacy.yields.append hNote)))
          have hServices : launches (tLoad ++ (tHttp ++ (tTls ++ (tLegacy ++
              [⟨.note (readyEntry r), some ()⟩])))) = r.services c (k.map Prod.snd) := by
            rw [hAll.launches]
            simp [Running.services]
          have hTlsSome : k.isSome = l.tlsAddr.isSome := by rw [← hText, Option.isSome_map]
          refine ⟨⟨?_, ?_, hSome.trans hTlsSome, ?_, ?_, ?_, ?_⟩, hPaths, hAll.granted⟩
          · rw [hAll.loaded, hServices]
          · rw [left, hAll.enter, ← hAll.launches, hServices]
            exact r.loop_services c (by rw [hSome, Option.isSome_map])
          · rw [hAll.loaded, Option.isSome_map, hTlsSome]
          · exact hHttp.isBound.mono fun x hx => by simp [hx]
          · exact hLegacy.isBound.mono fun x hx => by simp [hx]
          · intro text p hAddr hPort
            rw [← hText] at hAddr
            cases k with
            | none => cases hAddr
            | some m =>
                cases hAddr
                rw [hPort] at hTls
                exact hTls.isBound.mono fun x hx => by simp [hx]

/-- A start that fails: something was refused, or asked of nobody because it is not there. -/
theorem undone_of_course {e : Failure} (h : (start l c).Course t (some (.error e))) :
    left t = [] ∧ ((l.tlsAddr.isSome = true ∧ c.tlsPaths.isOk = false) ∨
      ∃ x ∈ t, x.isGranted = false) := by
  obtain ⟨k, tLoad, t, hLoad, h, rfl⟩ := h.of_bind
  replace hLoad := loading_of_course hLoad
  cases k with
  | error e =>
      cases h
      rw [List.append_nil]
      cases hLoad with
      | missing hText hPaths => exact ⟨rfl, .inl ⟨by rw [hText]; rfl, by rw [hPaths]; rfl⟩⟩
      | failed hText hPaths e => exact ⟨rfl, .inr ⟨_, List.mem_singleton_self _, rfl⟩⟩
  | ok k =>
      cases portsOpening_of_course h with
      | @failed loops t _ hLoops hRefused =>
          refine ⟨?_, .inr ?_⟩
          · rw [left, List.foldl_append, hLoad.yields.1.enter, List.foldl_append]
            rw [List.map_nil, List.append_nil, hLoops]
            exact enter_aborts loops loops fun l hl => hl
          · obtain ⟨x, hx, hRefused⟩ := hRefused
            exact ⟨x, by simp [hx], hRefused⟩

theorem isGranted_of_none (e : Request) : Exchange.isGranted ⟨e, none⟩ = false := by
  cases e <;> rfl

/-- Whether a request is one for certificates. -/
def Request.isLoad : Request → Bool
  | .load _ _ => true
  | _ => false

theorem all_openPort (text : String) (service : Service) :
    (openPort text service).All fun e => e.isLoad = false := by
  refine Program.All.bind ⟨rfl, fun resolved => ?_⟩ fun bound => ?_
  · cases resolved with
    | error e => trivial
    | ok a =>
        refine ⟨rfl, fun bound => ?_⟩
        cases bound with
        | error e => trivial
        | ok bound => exact ⟨rfl, fun _ => trivial⟩
  · cases bound with
    | error e => trivial
    | ok bound => exact ⟨rfl, fun _ => trivial⟩

theorem all_giveUp (loops : List LoopId) (e : Failure) :
    (giveUp loops e).All fun e => e.isLoad = false := by
  rw [giveUp]
  induction loops with
  | nil => trivial
  | cons loop rest ih => exact ⟨rfl, fun _ => ih⟩

theorem all_openPorts (l : ListenConfig) (c : ServerConfig)
    (k : Option (String × Tls.Credentials)) :
    (openPorts l c k).All fun e => e.isLoad = false := by
  refine (all_openPort _ _).bind fun http => ?_
  cases http with
  | error e => exact all_giveUp _ e
  | ok http =>
      refine Program.All.bind ?_ fun tls => ?_
      · cases k with
        | none => trivial
        | some k => exact (all_openPort _ _).bind fun _ => trivial
      · cases tls with
        | error e => exact all_giveUp _ e
        | ok tls =>
            refine (all_openPort _ _).bind fun legacy => ?_
            cases legacy with
            | error e => exact all_giveUp _ e
            | ok legacy => exact ⟨rfl, fun _ => trivial⟩

/-- The credentials are asked for first, and nothing is asked for after that if there are none. -/
theorem load_of_course {text cert key : String} {x : Option (Except Failure Running)}
    (hText : l.tlsAddr = some text) (hPaths : c.tlsPaths = .ok (cert, key))
    (h : (start l c).Course t x) :
    ∃ answer rest, t = ⟨.load cert key, answer⟩ :: rest ∧ (∀ x ∈ rest, x.1.isLoad = false) ∧
      ∀ e, answer = some (.error e) → rest = [] ∧ x = some (.error (loadFailure cert e)) := by
  simp only [start, loadFor, hText, hPaths, Program.bind] at h
  cases h with
  | waiting => exact ⟨none, [], rfl, by simp, fun e he => by cases he⟩
  | @answered _ _ rest _ answer h =>
      refine ⟨some answer, rest, rfl, ?_⟩
      cases answer with
      | error e =>
          cases h
          exact ⟨by simp, fun e' he => by cases he; exact ⟨rfl, rfl⟩⟩
      | ok k => exact ⟨h.all (all_openPorts l c _), fun e he => by cases he⟩

end Start

/-- A server starts with all of its ports or with none, whatever the machine answers. If the start
goes well there is one loop for each port that is to be opened, over TLS if and only if there is an
address for that, and the loop for clients on the raw stream forwards to where the one for WebSocket
clients was bound. If it fails, no loop is left that was started. It goes well just if the paths
that it needs are given and everything is granted that it asks for, and has no end just if the
machine leaves something unanswered.

Paths that are needed and not given, and credentials that cannot be loaded, end it before anything
else is asked for. Without an address for TLS nothing is loaded and no path is needed. -/
theorem start_is_all_or_nothing {σ : Type} (l : ListenConfig) (c : ServerConfig)
    (machine : Program.Answering Request Answer σ) (s : σ) :
    let t : List Exchange := (start l c).transcript machine s
    let result := ((start l c).run machine s).1
    (∀ r, result = some (.ok r) → IsRunning l c t r) ∧
      (∀ e, result = some (.error e) → left t = []) ∧
      (result = none ↔ ∃ e, ⟨e, none⟩ ∈ t) ∧
      ((∃ r, result = some (.ok r)) ↔
        (l.tlsAddr.isSome = true → c.tlsPaths.isOk = true) ∧ ∀ x ∈ t, x.isGranted = true) ∧
      (l.tlsAddr.isSome = true → ∀ e, c.tlsPaths = .error e →
        t = [] ∧ result = some (.error e)) ∧
      (l.tlsAddr.isSome = true → ∀ cert key, c.tlsPaths = .ok (cert, key) →
        ∃ answer rest, t = ⟨.load cert key, answer⟩ :: rest ∧
          (∀ x ∈ rest, x.1.isLoad = false) ∧
          ∀ e, answer = some (.error e) →
            rest = [] ∧ result = some (.error (loadFailure cert e))) ∧
      (l.tlsAddr = none → ∀ x ∈ t, x.1.isLoad = false) := by
  intro t result
  have hCourse : (start l c).Course t result := Program.course_run machine _ s
  refine ⟨fun r hResult => ?_, fun e hResult => ?_, hCourse.eq_none_iff, ⟨?_, ?_⟩, ?_, ?_, ?_⟩
  · exact (isRunning_of_course (hResult ▸ hCourse)).1
  · exact (undone_of_course (hResult ▸ hCourse)).1
  · rintro ⟨r, hResult⟩
    exact (isRunning_of_course (hResult ▸ hCourse)).2
  · rintro ⟨hPaths, hGranted⟩
    match hResult : result with
    | some (.ok r) => exact ⟨r, rfl⟩
    | some (.error e) =>
        rcases (undone_of_course hCourse).2 with ⟨hText, hMissing⟩ | ⟨x, hx, hRefused⟩
        · simp [hPaths hText] at hMissing
        · simp [hGranted x hx] at hRefused
    | none =>
        obtain ⟨e, he⟩ := hCourse.eq_none_iff.mp rfl
        have hRefused := hGranted _ he
        simp [isGranted_of_none] at hRefused
  · intro hText e hPaths
    obtain ⟨text, hText⟩ := Option.isSome_iff_exists.mp hText
    have hStart : start l c = .done (.error e) := by
      simp [start, loadFor, hText, hPaths, Program.bind]
    simp only [t, result, hStart]
    exact ⟨rfl, rfl⟩
  · intro hText cert key hPaths
    obtain ⟨text, hText⟩ := Option.isSome_iff_exists.mp hText
    exact load_of_course hText hPaths hCourse
  · intro hText
    have hStart : start l c = openPorts l c none := by simp [start, loadFor, hText, Program.bind]
    rw [hStart] at hCourse
    exact hCourse.all (all_openPorts l c none)

end SpeedTest.Server
