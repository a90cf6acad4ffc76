import DrawSubmission.Proofs.Script
set_option autoImplicit false

namespace DrawSubmission

/-- Attributes and addresses are the same in two scenes, up to the pins. -/
structure SameSources (s t : Scene) : Prop where
  attr : ∀ id, ∃ pins, t.attr id = { s.attr id with pins }
  base : ∀ id, (t.buffer id).base = (s.buffer id).base

namespace SameSources
variable {s t u : Scene}

theorem refl (s : Scene) : SameSources s s := ⟨fun id => ⟨(s.attr id).pins, rfl⟩, fun _ => rfl⟩

theorem trans (h : SameSources s t) (h' : SameSources t u) : SameSources s u := by
  refine ⟨fun id => ?_, fun id => (h'.base id).trans (h.base id)⟩
  obtain ⟨pins, same⟩ := h.attr id
  obtain ⟨pins', same'⟩ := h'.attr id
  exact ⟨pins', by rw [same', same]⟩

theorem address (h : SameSources s t) (request : DrawRequest) :
    request.address t = request.address s := by
  simp only [DrawRequest.address, h.base]

theorem channels (h : SameSources s t) (attributes : List AttributeId) :
    t.channels attributes = s.channels attributes := by
  have each (id : AttributeId) : (t.attr id).readable = (s.attr id).readable ∧
      t.channel (t.attr id) = s.channel (s.attr id) := by
    obtain ⟨pins, same⟩ := h.attr id
    rw [same]
    refine ⟨rfl, ?_⟩
    simp only [Scene.channel, h.base]
    rfl
  have filtered : ∀ u : Scene, u.channels attributes =
      (attributes.filter fun id => (u.attr id).readable).mapM fun id => u.channel (u.attr id) := by
    intro u
    rw [Scene.channels, List.filter_map, List.mapM_map]
    rfl
  simp only [filtered, each]

theorem acquire (s : Scene) (id : AttributeId) : SameSources s (s.acquire id) := by
  constructor
  · intro other
    rw [Scene.attr_acquire]
    split
    · rename_i here
      exact ⟨_, by rw [here.1]⟩
    · exact ⟨(s.attr other).pins, rfl⟩
  · intro other
    rw [Scene.buffer_acquire]
    split
    · rename_i here
      rw [here.1]
      rfl
    · rfl

end SameSources

theorem sameSources_pinned (s : Scene) (attributes : List AttributeId) :
    SameSources s (s.pinned attributes) := by
  refine List.foldlRecOn attributes _ (motive := SameSources s) (.refl s) fun t same id _ => ?_
  exact same.trans (.acquire t id)

def outlineChannel (buffer : BufferId) : Channel :=
  ⟨.position, ⟨buffer, 3, .float, .ofNat Vertex3.size, 0⟩, false⟩

theorem sameSources_wirePipeline (s : Scene) : SameSources s s.wirePipeline.2 := by
  unfold Scene.wirePipeline
  split
  · exact .refl s
  · exact ⟨fun id => ⟨(s.attr id).pins, rfl⟩, fun _ => rfl⟩

theorem wirePipeline_store (s : Scene) :
    s.wirePipeline.2.attributes = s.attributes ∧ s.wirePipeline.2.buffers = s.buffers := by
  unfold Scene.wirePipeline
  split <;> exact ⟨rfl, rfl⟩

theorem attr_addOutline (s : Scene) (outline : List Segment) :
    (s.addOutline outline).2.attr (s.addOutline outline).1 =
      outlineAttribute ⟨s.buffers.size⟩ s.context.diagnostics := by
  rw [Scene.addOutline, Scene.attr_addAttr]
  exact if_pos rfl

theorem channels_addOutline (s : Scene) (outline : List Segment) :
    (s.addOutline outline).2.channels [(s.addOutline outline).1] =
      .ok [outlineChannel ⟨s.buffers.size⟩] := by
  let added := (s.addOutline outline).2
  have attr : added.attr (s.addOutline outline).1 =
      outlineAttribute ⟨s.buffers.size⟩ s.context.diagnostics := attr_addOutline s outline
  have base : (added.buffer (outlineAttribute ⟨s.buffers.size⟩ s.context.diagnostics).buffer).base =
      0 := by
    have made := s.buffer_addBuffer ⟨s.buffers.size⟩
      { contents := ((outline.flatMap Segment.vertices).flatMap Vertex3.toBytes).toArray
        origin := .driver }
    rw [if_pos rfl] at made
    exact congrArg Buffer.base made
  have readable : (added.attr (s.addOutline outline).1).readable = true := by
    rw [attr]
    rfl
  have channel : added.channel (added.attr (s.addOutline outline).1) =
      .ok (outlineChannel ⟨s.buffers.size⟩) := by
    rw [attr, Scene.channel, base]
    rfl
  have none : added.channels [] = .ok [] := rfl
  exact Scene.channels_snoc readable none channel

theorem channels_stageOutline (s : Scene) (outline : List Segment) :
    (s.stageOutline outline).2.channels [(s.stageOutline outline).1] =
      .ok [outlineChannel ⟨s.buffers.size⟩] := by
  have piped := sameSources_wirePipeline (s.addOutline outline).2
  rw [← channels_addOutline s outline]
  exact piped.channels _

theorem attr_stageOutline (s : Scene) (outline : List Segment) :
    (s.stageOutline outline).2.attr (s.stageOutline outline).1 =
      outlineAttribute ⟨s.buffers.size⟩ s.context.diagnostics := by
  rw [← attr_addOutline s outline]
  exact congrArg (·.getD s.attributes.size default)
    (wirePipeline_store (s.addOutline outline).2).1

theorem buffer_stageOutline (s : Scene) (outline : List Segment) :
    ((s.stageOutline outline).2.buffer ⟨s.buffers.size⟩).pins = 0 ∧
      ((s.stageOutline outline).2.buffer ⟨s.buffers.size⟩).bindCount = 0 := by
  have same : (s.stageOutline outline).2.buffer ⟨s.buffers.size⟩ =
      (s.addOutline outline).2.buffer ⟨s.buffers.size⟩ :=
    congrArg (·.getD s.buffers.size default) (wirePipeline_store (s.addOutline outline).2).2
  have made := s.buffer_addBuffer ⟨s.buffers.size⟩
    { contents := ((outline.flatMap Segment.vertices).flatMap Vertex3.toBytes).toArray
      origin := .driver }
  rw [if_pos rfl] at made
  rw [same]
  exact ⟨congrArg Buffer.pins made, congrArg Buffer.bindCount made⟩

theorem settings_stageOutline (s : Scene) (outline : List Segment) :
    (s.stageOutline outline).2.context.settings = s.context.settings := by
  have piped (t : Scene) : t.wirePipeline.2.context.settings = t.context.settings := by
    unfold Scene.wirePipeline
    split <;> rfl
  exact piped (s.addOutline outline).2

/-- The addresses that a draw hands to the driver stay in their word. -/
structure DrawRequest.Fits (request : DrawRequest) (s : Scene) : Prop where
  readable : ∃ channels, s.channels request.attributes = .ok channels
  addressed : ∃ start, request.address s = .ok start

theorem SameSources.fits_iff {s t : Scene} (h : SameSources s t) (request : DrawRequest) :
    request.Fits t ↔ request.Fits s := by
  constructor
  · rintro ⟨readable, addressed⟩
    rw [h.channels] at readable
    rw [h.address] at addressed
    exact ⟨readable, addressed⟩
  · rintro ⟨readable, addressed⟩
    rw [← h.channels] at readable
    rw [← h.address] at addressed
    exact ⟨readable, addressed⟩

open SceneM

theorem fits_drawOnce (s : Scene) (request : DrawRequest) (options : FlushOptions) :
    Ensures (fun t => t = s) (drawOnce request options) (fun _ _ => request.Fits s)
      (fun cause _ => cause = .count ∨ ¬ request.Fits s) := by
  have sources := sameSources_pinned s request.attributes
  refine (drawOnce_ensures s request options).mono ?_ ?_
  · rintro _ t ⟨channels, drawn⟩
    obtain ⟨start, bound, addressed, _⟩ := drawn.calls
    exact (sources.fits_iff request).mp ⟨⟨channels, drawn.readable⟩, ⟨start, addressed⟩⟩
  · intro cause t broken
    refine or_iff_not_imp_left.mpr fun counted fits => ?_
    obtain ⟨⟨channels, readable⟩, ⟨start, addressed⟩⟩ := (sources.fits_iff request).mpr fits
    cases broken with
    | setUp overflow => cases (overflow.resolve_left counted).symm.trans readable
    | lead overflow => cases (overflow.resolve_left counted).symm.trans addressed

theorem setUpChannel_uncounted {s : Scene} {setUp : SetUp} {id : AttributeId}
    (none : setUp.generic = 0) (position : (s.attr id).role = .position)
    (unbound : (s.buffer (s.attr id).buffer).bindCount = 0) :
    Ensures (fun t => t = s) (Scene.setUpChannel setUp id) (fun _ _ => True)
      fun cause _ => cause ≠ .count := by
  rintro t rfl
  cases readable : (t.attr id).readable with
  | false =>
    rw [Scene.setUpChannel_of_unreadable setUp readable]
    trivial
  | true =>
    rw [Scene.setUpChannel_of_readable setUp readable]
    have bound : Ensures (fun u => u = t) (bindBuffer (t.attr id).buffer .vertexArray)
        (fun _ _ => True) fun cause _ => cause ≠ .count := by
      refine (bindBuffer_ensures t _ _).mono (fun _ _ _ => trivial) ?_
      rintro cause u ⟨_, full, _⟩
      rw [unbound] at full
      exact absurd full (by decide)
    refine bound.bind (fun _ u _ => ?_) t rfl
    simp only [Scene.connectBound]
    cases addressed : (t.attr id).pointer (u.buffer (t.attr id).buffer).base with
    | error cause =>
      rw [VertexAttribute.pointer_error addressed]
      exact Overflow.noConfusion
    | ok pointer =>
      have next : (u.connect setUp (t.attr id) pointer).1.generic = 0 := by
        simp only [Scene.connect, position, none]
      dsimp only
      rw [next, if_neg (by decide)]
      trivial

/-- A draw from one position attribute that is new, as its buffer is, meets no full counter. -/
theorem drawOnce_uncounted {s : Scene} {request : DrawRequest} {id : AttributeId}
    (alone : request.attributes = [id]) (plain : request.indices = none)
    (position : (s.attr id).role = .position) (free : (s.attr id).pins = 0)
    (free' : (s.buffer (s.attr id).buffer).pins = 0)
    (unbound : (s.buffer (s.attr id).buffer).bindCount = 0) (options : FlushOptions) :
    Ensures (fun t => t = s) (drawOnce request options) (fun _ _ => True)
      fun cause _ => cause ≠ .count := by
  let pinned := s.acquire id
  obtain ⟨pins, attr⟩ := (SameSources.acquire s id).attr id
  have room : takePin id s = .ok () pinned :=
    takePin_of_room (by rw [free]; decide) (by rw [free']; decide)
  have taken : Ensures (fun t => t = s) (takePins [] request.attributes) (fun _ t => t = pinned)
      fun cause _ => cause ≠ .count := by
    rintro t rfl
    simp only [alone, takePins, room]
  have connected (setUp : SetUp) (none : setUp.generic = 0) :
      Ensures (fun t => t = pinned) (Scene.setUpChannel setUp id) (fun _ _ => True)
        fun cause _ => cause ≠ .count := by
    refine setUpChannel_uncounted none ?_ ?_
    · rw [attr]
      exact position
    · rw [attr]
      exact ((SameBindings.frame.pins.acquire s id).count _).trans unbound
  have enabled : Ensures (fun t => t = pinned) (enableAttributes request.attributes options)
      (fun _ _ => True) fun cause _ => cause ≠ .count := by
    refine .get_bind fun t same => ?_
    subst same
    simp only [alone, List.foldlM_cons, List.foldlM_nil, bind_pure]
    exact (connected _ rfl).bind fun setUp _ _ => trivial
  refine taken.bind fun _ => Ensures.thenAlways ?_
  rw [drawPinned_counted]
  refine enabled.bind fun flushed => ?_
  simp only [issue, plain]
  exact fun _ _ => trivial

theorem drawLines_completes (s : Scene) (outline : List Segment) :
    Ensures (fun t => t = (s.stageOutline outline).2.setOutlines false)
      (drawOnce (lineDraw outline (s.stageOutline outline).1) {}) (fun _ _ => True)
      fun _ _ => False := by
  let staged := (s.stageOutline outline).2.setOutlines false
  let lines := (s.stageOutline outline).1
  -- The only channel is known to have an address, and a draw without indices needs none.
  have fits : (lineDraw outline lines).Fits staged :=
    ⟨⟨_, channels_stageOutline s outline⟩, ⟨_, rfl⟩⟩
  -- Its attribute and its buffer are new, so none of their counters is full.
  have attr : staged.attr lines = outlineAttribute ⟨s.buffers.size⟩ s.context.diagnostics :=
    attr_stageOutline s outline
  obtain ⟨unpinned, unbound⟩ := buffer_stageOutline s outline
  have uncounted : Ensures (fun t => t = staged) (drawOnce (lineDraw outline lines) {})
      (fun _ _ => True) fun cause _ => cause ≠ .count := by
    refine drawOnce_uncounted rfl rfl ?_ ?_ ?_ ?_ {} <;> rw [attr]
    · rfl
    · rfl
    · exact unpinned
    · exact unbound
  refine ((fits_drawOnce staged _ {}).and uncounted).mono (fun _ _ _ => trivial) ?_
  exact fun cause t ⟨broken, counted⟩ => (broken.resolve_left counted) fits

end DrawSubmission
