import Turnstile.Tool.Remote
import Mathlib.Data.List.Nodup
/-!
# Tools of two servers — names that run into each other

A tool of a server is registered under the server's name, two underscores
and its own name. Two underscores may stand in either name as well, so the
tools of two servers can come to have one name. They do exactly where the
one server's name goes on as the other's tool begins
(`Remote.qualifiedName_eq_iff`), and then the tool that was registered
last is the one that is called. Servers of whose names none begins with
the other and an underscore never come to that.
-/

namespace Turnstile

/-! ## Registering tools in turn -/

namespace Registry

variable (r : Registry)

/-- What is registered is kept as it was at that moment. -/
theorem entry?_register (tool : Tool) (now : Moment) (name : String) :
    Registry.entry? (r.register tool now).2 name =
      if (tool.definition now).name = name then some ⟨tool.definition now, tool⟩
      else r.entry? name :=
  Keyed.find?_insert ..

theorem find?_register (tool : Tool) (now : Moment) (name : String) :
    (r.register tool now).2.find? name =
      if (tool.definition now).name = name then some tool else r.find? name := by
  rw [find?, entry?_register]
  split <;> rfl

variable {now : Moment}

/-- A name that none of some tools has keeps what it has. -/
theorem find?_registerAll_of_not_mem {tools : List Tool} {name : String}
    (h : ∀ tool ∈ tools, (tool.definition now).name ≠ name) :
    (r.registerAll tools now).find? name = r.find? name := by
  induction tools generalizing r with
  | nil => rfl
  | cons first rest ih =>
    obtain ⟨hfirst, hrest⟩ := List.forall_mem_cons.mp h
    change ((r.register first now).2.registerAll rest now).find? name = _
    rw [ih _ hrest, find?_register, if_neg hfirst]

/-- **Of tools with names of their own each is found by its name.** -/
theorem find?_registerAll_of_mem {tools : List Tool}
    (hnames : (tools.map fun tool => (tool.definition now).name).Nodup) {tool : Tool}
    (h : tool ∈ tools) :
    (r.registerAll tools now).find? (tool.definition now).name = some tool := by
  induction tools generalizing r with
  | nil => cases h
  | cons first rest ih =>
    obtain ⟨hfirst, hrest⟩ := List.nodup_cons.mp hnames
    change ((r.register first now).2.registerAll rest now).find? _ = _
    rcases List.mem_cons.mp h with rfl | h
    · have hothers : ∀ other ∈ rest, (other.definition now).name ≠ (tool.definition now).name :=
        fun other hother hname => hfirst (List.mem_map.mpr ⟨other, hother, hname⟩)
      rw [find?_registerAll_of_not_mem _ hothers, find?_register, if_pos rfl]
    · exact ih _ hrest h

theorem get_eq_ok {r : Registry} {name : String} {tool : Tool} (h : r.find? name = some tool) :
    r.get name = .ok tool := by
  rw [get, h]

end Registry

namespace Remote

/-! ## Names -/

/-- The names of two tools run into each other: the second server's name
goes on where the first one's ends, and as the first one's tool begins. -/
def RunsInto (server tool server' tool' : String) : Prop :=
  (server' = server ++ "_" ∧ tool = "_" ++ tool') ∨
  ∃ piece, server' = server ++ "__" ++ piece ∧ tool = piece ++ "__" ++ tool'

/-- Either runs into the other. -/
def Clash (server tool server' tool' : String) : Prop :=
  RunsInto server tool server' tool' ∨ RunsInto server' tool' server tool

theorem toList_qualifiedName (server tool : String) :
    (qualifiedName server tool).toList = server.toList ++ '_' :: '_' :: tool.toList := by
  rw [qualifiedName, String.toList_append, String.toList_append, List.append_assoc]
  rfl

theorem RunsInto.qualifiedName_eq {server tool server' tool' : String}
    (h : RunsInto server tool server' tool') :
    qualifiedName server tool = qualifiedName server' tool' := by
  rw [← String.toList_inj, toList_qualifiedName, toList_qualifiedName]
  obtain ⟨rfl, rfl⟩ | ⟨piece, rfl, rfl⟩ := h <;> simp

/-- A server's name that goes on where another ends runs into it, if the
tools' names make up for it. -/
theorem runsInto_of_append {server tool server' tool' : String} {more : List Char}
    (hne : server ≠ server') (hserver : server'.toList = server.toList ++ more)
    (htool : '_' :: '_' :: tool.toList = more ++ '_' :: '_' :: tool'.toList) :
    RunsInto server tool server' tool' := by
  -- how much of the two underscores the longer name takes
  match more, hserver, htool with
  | [], hserver, _ =>
    rw [List.append_nil] at hserver
    exact absurd (String.toList_inj.mp hserver.symm) hne
  | [c], hserver, htool =>
    simp only [List.cons_append, List.nil_append, List.cons.injEq] at htool
    obtain ⟨rfl, -, htool⟩ := htool
    refine Or.inl ⟨?_, ?_⟩
    · rw [← String.toList_inj, hserver, String.toList_append]
      rfl
    · rw [← String.toList_inj, htool, String.toList_append]
      rfl
  | c :: d :: piece, hserver, htool =>
    simp only [List.cons_append, List.cons.injEq] at htool
    obtain ⟨rfl, rfl, htool⟩ := htool
    refine Or.inr ⟨String.ofList piece, ?_, ?_⟩
    · rw [← String.toList_inj, hserver]
      simp
    · rw [← String.toList_inj, htool]
      simp

/-- **Tools of two servers have one name** exactly if their names run into
each other. -/
theorem qualifiedName_eq_iff {server server' : String} (hne : server ≠ server')
    (tool tool' : String) :
    qualifiedName server tool = qualifiedName server' tool' ↔
      Clash server tool server' tool' := by
  constructor
  · intro h
    rw [← String.toList_inj, toList_qualifiedName, toList_qualifiedName,
      List.append_eq_append_iff] at h
    rcases h with ⟨more, hserver, htool⟩ | ⟨more, hserver, htool⟩
    · exact Or.inl (runsInto_of_append hne hserver htool)
    · exact Or.inr (runsInto_of_append hne.symm hserver htool)
  · rintro (h | h)
    · exact h.qualifiedName_eq
    · exact h.qualifiedName_eq.symm

/-- What a server's name begins with that runs into another. -/
theorem RunsInto.startsWith {server tool server' tool' : String}
    (h : RunsInto server tool server' tool') : Text.startsWith server' (server ++ "_") = true := by
  rw [Text.startsWith, List.isPrefixOf_iff_prefix]
  obtain ⟨rfl, -⟩ | ⟨piece, rfl, -⟩ := h
  · exact List.prefix_rfl
  · simp

/-- On one server names are kept apart. -/
theorem qualifiedName_injective (server : String) : Function.Injective (qualifiedName server) := by
  intro tool tool' h
  rw [← String.toList_inj, toList_qualifiedName, toList_qualifiedName] at h
  exact String.toList_inj.mp (by simpa using h)

/-! ## Calls -/

/-- What a call comes to once its server has answered, or has not. -/
def answered (policy : Policy) :
    Except RemoteError (Option RemoteOutput) × World → Except ToolError String × World
  | (.error e, after) => (.error (.execution e.message), after)
  | (.ok none, after) => (.error .cancelled, after)
  | (.ok (some output), after) =>
    let content := Text.capWithMarker output.content policy.effectiveMaxOutputBytes
    (if output.isError then .error (.execution content) else .ok content, after)

/-- **A call is a call on the server**, unless it is cancelled before. -/
theorem execute_on (client : RemoteClient) (name : String) (input : Json) (policy : Policy)
    (w : World) :
    (execute client name input policy).on w =
      if w.isCancelled then (.error .cancelled, w)
      else answered policy ((client.call name input).on w) := by
  by_cases hcancelled : w.isCancelled = true
  · simp [execute, hcancelled]
  · rcases hcall : (client.call name input).on w with ⟨e | _ | output, after⟩
    · simp [execute, hcancelled, hcall, answered, Except.mapError, failed]
    · simp [execute, hcancelled, hcall, answered, Except.mapError]
    · cases herror : output.isError <;>
        simp [execute, hcancelled, hcall, answered, Except.mapError, herror]

/-- **A tool of a server is served**: it is there under the server's name
and its own, described as the server does, and a call of it is a call of
that tool on that server. -/
def Serves (r : Registry) (client : RemoteClient) (remote : ToolDefinition) : Prop :=
  ∃ tool, r.get (qualifiedName client.server remote.name) = .ok tool ∧
    (∀ now, tool.definition now =
      { remote with name := qualifiedName client.server remote.name }) ∧
    ∀ context input sandbox policy w,
      (tool.execute context input sandbox policy).on w =
        if w.isCancelled then (.error .cancelled, w)
        else answered policy ((client.call remote.name input).on w)

/-- So it is, where the tool that stands for it is found. -/
theorem serves_of_get {r : Registry} {client : RemoteClient} {remote : ToolDefinition}
    (h : r.get (qualifiedName client.server remote.name) = .ok (tool client remote)) :
    Serves r client remote :=
  ⟨_, h, fun _ => rfl, fun _ input _ policy w => execute_on client remote.name input policy w⟩

/-- And what is found is what serves it. -/
theorem Serves.on_eq {r : Registry} {client : RemoteClient} {remote : ToolDefinition}
    (h : Serves r client remote) {found : Tool}
    (hfound : r.get (qualifiedName client.server remote.name) = .ok found)
    (context : ToolContext) (input : Json) (sandbox : Sandbox) (policy : Policy) (w : World) :
    (found.execute context input sandbox policy).on w =
      if w.isCancelled then (.error .cancelled, w)
      else answered policy ((client.call remote.name input).on w) := by
  obtain ⟨tool, htool, -, hcall⟩ := h
  rw [hfound, Except.ok.injEq] at htool
  rw [htool]
  exact hcall context input sandbox policy w

/-! ## Two servers -/

/-- Register the tools of a server, and then those of another. -/
def registerBoth (r : Registry) (first second : RemoteClient) : Act RemoteError Registry := do
  let (_, r) ← registerAll r first
  let (_, r) ← registerAll r second
  return r

theorem registerBoth_on {r : Registry} {first second : RemoteClient} {w mid after : World}
    {remotes remotes' : List ToolDefinition} (hlist : first.list.on w = (.ok remotes, mid))
    (hlist' : second.list.on mid = (.ok remotes', after)) :
    (registerBoth r first second).on w =
      (.ok ((r.registerAll (remotes.map (tool first))).registerAll (remotes'.map (tool second))),
        after) := by
  simp [registerBoth, registerAll, hlist, hlist', Except.map]

/-- The tools of one server have names of their own. -/
theorem nodup_names (client : RemoteClient) {remotes : List ToolDefinition}
    (h : (remotes.map (·.name)).Nodup) :
    ((remotes.map (tool client)).map (·.definition.name)).Nodup := by
  have hnames : (remotes.map (tool client)).map (·.definition.name) =
      (remotes.map (·.name)).map (qualifiedName client.server) := by
    simp [tool]
  rw [hnames]
  exact h.map (qualifiedName_injective client.server)

/-- The registry `r'` holds the tools of two servers, the second's
registered after the first's. -/
structure Shared (r r' : Registry) (first second : RemoteClient)
    (remotes remotes' : List ToolDefinition) : Prop where
  /-- Two tools of theirs have one name exactly if their names run into
  each other. -/
  name_eq_iff : ∀ name name',
    qualifiedName first.server name = qualifiedName second.server name' ↔
      Clash first.server name second.server name'
  /-- Every tool of the second server is served. -/
  later : ∀ remote ∈ remotes', Serves r' second remote
  /-- So is every tool of the first that does not clash with any of them. -/
  earlier : ∀ remote ∈ remotes,
    (∀ remote' ∈ remotes', ¬ Clash first.server remote.name second.server remote'.name) →
      Serves r' first remote
  /-- In the place of one that does is the tool it clashes with. -/
  taken : ∀ remote ∈ remotes, ∀ remote' ∈ remotes',
    Clash first.server remote.name second.server remote'.name →
      r'.get (qualifiedName first.server remote.name) = .ok (tool second remote')
  /-- Servers of whose names none begins with the other and an underscore
  do not clash at all. -/
  apart : Text.startsWith second.server (first.server ++ "_") = false →
    Text.startsWith first.server (second.server ++ "_") = false →
      ∀ remote ∈ remotes, Serves r' first remote
  /-- What is registered under other names stays there. -/
  others : ∀ name, (∀ remote ∈ remotes, qualifiedName first.server remote.name ≠ name) →
    (∀ remote ∈ remotes', qualifiedName second.server remote.name ≠ name) →
      r'.find? name = r.find? name

/-- **What two servers' tools become**, registered one after the other:
every tool is served under its own name as long as it does not clash with
one of the other server, and where two clash the later takes the name. -/
theorem registerBoth_shared {first second : RemoteClient} (hne : first.server ≠ second.server)
    (r : Registry) {w mid after : World} {remotes remotes' : List ToolDefinition}
    (hlist : first.list.on w = (.ok remotes, mid))
    (hlist' : second.list.on mid = (.ok remotes', after))
    (hnames : (remotes.map (·.name)).Nodup) (hnames' : (remotes'.map (·.name)).Nodup) :
    ∃ r', (registerBoth r first second).on w = (.ok r', after) ∧
      Shared r r' first second remotes remotes' := by
  refine ⟨_, registerBoth_on hlist hlist', ?_⟩
  have hsecond : ∀ remote ∈ remotes',
      ((r.registerAll (remotes.map (tool first))).registerAll (remotes'.map (tool second))).get
        (qualifiedName second.server remote.name) = .ok (tool second remote) :=
    fun remote hmem => Registry.get_eq_ok (Registry.find?_registerAll_of_mem _
      (nodup_names second hnames') (List.mem_map_of_mem hmem))
  have hfirst : ∀ remote ∈ remotes,
      (∀ remote' ∈ remotes', ¬ Clash first.server remote.name second.server remote'.name) →
      ((r.registerAll (remotes.map (tool first))).registerAll (remotes'.map (tool second))).get
        (qualifiedName first.server remote.name) = .ok (tool first remote) := by
    intro remote hmem hapart
    have hothers : ∀ other ∈ remotes'.map (tool second),
        other.definition.name ≠ qualifiedName first.server remote.name := by
      refine List.forall_mem_map.mpr fun remote' hmem' hname => ?_
      exact hapart remote' hmem' ((qualifiedName_eq_iff hne ..).mp hname.symm)
    refine Registry.get_eq_ok ?_
    rw [Registry.find?_registerAll_of_not_mem _ hothers]
    exact Registry.find?_registerAll_of_mem _ (nodup_names first hnames)
      (List.mem_map_of_mem hmem)
  refine ⟨qualifiedName_eq_iff hne, fun remote hmem => serves_of_get (hsecond remote hmem),
    fun remote hmem hapart => serves_of_get (hfirst remote hmem hapart), ?_, ?_, ?_⟩
  · intro remote _ remote' hmem' hclash
    rw [(qualifiedName_eq_iff hne ..).mpr hclash]
    exact hsecond remote' hmem'
  · intro hno hno' remote hmem
    refine serves_of_get (hfirst remote hmem fun remote' _ hclash => ?_)
    rcases hclash with h | h
    · exact absurd h.startsWith (by simp [hno])
    · exact absurd h.startsWith (by simp [hno'])
  · intro name hno hno'
    rw [Registry.find?_registerAll_of_not_mem _ (List.forall_mem_map.mpr hno'),
      Registry.find?_registerAll_of_not_mem _ (List.forall_mem_map.mpr hno)]

/-- A server whose tools tell who ran. -/
def telling (server : String) (names : List String) : RemoteClient where
  server := server
  list := pure (names.map fun name => .plain name "")
  call name _ := pure (some ⟨server ++ " ran " ++ name, false⟩)

/-- Two tools of one name: the later takes it, all else is served. -/
theorem registerBoth_shared_overlapping :
    ∃ r', (registerBoth .empty (telling "a" ["b__c", "d"]) (telling "a__b" ["c"])).on default =
        (.ok r', default) ∧
      Serves r' (telling "a" ["b__c", "d"]) (.plain "d" "") ∧
      Serves r' (telling "a__b" ["c"]) (.plain "c" "") ∧
      r'.get "a__b__c" = .ok (tool (telling "a__b" ["c"]) (.plain "c" "")) := by
  have hne : (telling "a" ["b__c", "d"]).server ≠ (telling "a__b" ["c"]).server := by decide
  obtain ⟨r', hrun, hshared⟩ := registerBoth_shared hne .empty (w := default) rfl rfl (by decide)
    (by decide)
  have hapart : ¬ Clash "a" "d" "a__b" "c" := (hshared.name_eq_iff "d" "c").not.mp (by decide)
  refine ⟨r', hrun, hshared.earlier _ (by simp) ?_, hshared.later _ (by simp), ?_⟩
  · exact fun remote' hmem => by rwa [List.mem_singleton.mp hmem]
  · exact hshared.taken (.plain "b__c" "") (by simp) _ (by simp)
      (Or.inl (Or.inr ⟨"b", by decide, by decide⟩))

/-- A tool in whose place another tells something else is not served. -/
theorem not_serves_telling {r : Registry} {names names' : List String}
    (server server' name name' : String)
    (hfound : r.get (qualifiedName server name) =
      .ok (tool (telling server' names') (.plain name' "")))
    (hne : Text.capWithMarker (server' ++ " ran " ++ name') Policy.default.effectiveMaxOutputBytes ≠
      Text.capWithMarker (server ++ " ran " ++ name) Policy.default.effectiveMaxOutputBytes) :
    ¬ Serves r (telling server names) (.plain name "") := by
  intro hserves
  have hcall := hserves.on_eq hfound ⟨none, ""⟩ .null ⟨"", fun _ _ => throw .emptyProgram⟩
    .default default
  exact hne (Except.ok.inj (congrArg Prod.fst hcall))

/-- **A server's tool can be lost to another server**, whichever of them is
registered later. -/
theorem registerBoth_not_serves :
    (telling "a" ["b__c"]).server ≠ (telling "a__b" ["c"]).server ∧
    qualifiedName "a" "b__c" = qualifiedName "a__b" "c" ∧
    (∃ r', (registerBoth .empty (telling "a" ["b__c"]) (telling "a__b" ["c"])).on default =
        (.ok r', default) ∧ ¬ Serves r' (telling "a" ["b__c"]) (.plain "b__c" "")) ∧
    ∃ r', (registerBoth .empty (telling "a__b" ["c"]) (telling "a" ["b__c"])).on default =
        (.ok r', default) ∧ ¬ Serves r' (telling "a__b" ["c"]) (.plain "c" "") :=
  ⟨by decide, by decide,
    ⟨_, registerBoth_on rfl rfl, not_serves_telling "a" "a__b" "b__c" "c" rfl (by decide)⟩,
    ⟨_, registerBoth_on rfl rfl, not_serves_telling "a__b" "a" "c" "b__c" rfl (by decide)⟩⟩

end Remote

end Turnstile
