import DrawSubmission.Proofs.Completion
set_option autoImplicit false

namespace DrawSubmission

def DriverCall.isGeometry : DriverCall → Bool
  | setVertexPointer _ | drawArrays .. | drawElements .. | createVertexArray .. => true
  | _ => false

def DriverCall.isUpload : DriverCall → Bool
  | createVertexArray .. => true
  | _ => false

def geometry (calls : List DriverCall) : List DriverCall := calls.filter DriverCall.isGeometry

def placements (channels : List Channel) : List DriverCall :=
  (ofRole .position channels).map fun c => .setVertexPointer c.pointer

section Calls
variable (units : BitVec 32) (generic : Nat)

theorem geometry_append (xs ys : List DriverCall) :
    geometry (xs ++ ys) = geometry xs ++ geometry ys :=
  List.filter_append ..

theorem geometry_eq_nil {calls : List DriverCall} (h : ∀ call ∈ calls, call.isGeometry = false) :
    geometry calls = [] :=
  List.filter_eq_nil_iff.mpr fun call inside => by simp [h call inside]

theorem geometry_setUpCalls (channels : List Channel) :
    geometry (setUpCalls units generic channels) = placements channels := by
  induction channels generalizing units generic with
  | nil => rfl
  | cons c channels ih =>
    have first : geometry (c.setUpCalls units generic) = placements [c] := by
      unfold Channel.setUpCalls placements ofRole
      cases role : c.role with
      | textureCoord unit =>
        dsimp only
        split <;> simp [geometry, DriverCall.isGeometry, role]
      | position | color | normal | custom => simp [geometry, DriverCall.isGeometry, role]
    rw [setUpCalls, geometry_append, ih, first, placements, placements, placements, ofRole, ofRole,
      ofRole, ← List.map_append, ← List.filter_append, List.singleton_append]

theorem geometry_leadCalls (context : DrawContext) (channels : List Channel) (view : PipelineView) :
    geometry (leadCalls context channels view) = placements channels := by
  have flushed : geometry (flushCalls context channels view) = [] :=
    geometry_eq_nil (forall_flushCalls (fun _ => rfl) rfl (fun _ _ => rfl) fun _ => rfl)
  rw [leadCalls, geometry_append, geometry_setUpCalls, flushed, List.append_nil]

theorem geometry_tearDownCalls (roles : List Role) :
    geometry (tearDownCalls generic roles) = [] := by
  apply geometry_eq_nil
  apply forall_tearDownCalls
  · exact fun _ => rfl
  · rfl

theorem geometry_call (request : DrawRequest) (start : UInt64) (during : Moment) :
    geometry [request.call start during] = [request.call start during] := by
  unfold DrawRequest.call
  split <;> rfl

end Calls

def Plots (shapes : List DriverCall) (s t : Scene) : Prop :=
  ∃ calls, t.calls.toList = s.calls.toList ++ calls ∧ geometry calls = shapes

namespace Plots
variable {shapes shapes' : List DriverCall} {s t u : Scene}

theorem of_told (h : t.told = s.told) : Plots [] s t :=
  ⟨[], by rw [Scene.calls_eq_of_told h, List.append_nil], rfl⟩

theorem of_readied (h : Readied s t) : Plots [] s t := by
  obtain ⟨lead, flushes, appended⟩ := h.calls
  refine ⟨lead, appended, geometry_eq_nil fun call inside => ?_⟩
  rcases flushes call inside with rfl | rfl <;> rfl

theorem trans (h : Plots shapes s t) (h' : Plots shapes' t u) : Plots (shapes ++ shapes') s u := by
  obtain ⟨xs, appended, same⟩ := h
  obtain ⟨ys, appended', same'⟩ := h'
  refine ⟨xs ++ ys, ?_, ?_⟩
  · rw [appended', appended, List.append_assoc]
  · rw [geometry_append, same, same']

theorem told (h : Plots shapes s t) (told : u.told = t.told) : Plots shapes s u := by
  rw [← List.append_nil shapes]
  exact h.trans (.of_told told)

end Plots

open SceneM

section Draw
variable (s : Scene)

theorem plots_drawOnce (request : DrawRequest) (options : FlushOptions) :
    Ensures (fun t => t = s) (drawOnce request options)
      (fun _ t => ∃ channels start during, s.channels request.attributes = .ok channels ∧
        request.address s = .ok start ∧
          Plots (placements channels ++ [request.call start during]) s t)
      (fun _ t => ∃ channels, Plots (placements channels) s t) := by
  have pinned : Plots [] s (s.pinned request.attributes) := .of_told (told_pinned ..)
  have sources := sameSources_pinned s request.attributes
  refine (drawOnce_ensures s request options).mono ?_ ?_
  · rintro _ t ⟨channels, drawn⟩
    obtain ⟨start, bound, addressed, appended⟩ := drawn.calls
    have readable := drawn.readable
    rw [sources.channels] at readable
    rw [sources.address] at addressed
    let own := request.call start { (s.pinned request.attributes).moment with bound }
    have plots : Plots (placements channels ++ [own]) (s.pinned request.attributes) t := by
      refine ⟨_, appended, ?_⟩
      rw [List.append_cons, geometry_append, geometry_append, geometry_leadCalls, geometry_call,
        geometry_tearDownCalls, List.append_nil]
    exact ⟨channels, start, _, readable, addressed, pinned.trans plots⟩
  · intro cause t broken
    cases broken with
    | setUp overflow channels appended =>
      exact ⟨channels, pinned.trans ⟨_, appended, geometry_setUpCalls ..⟩⟩
    | lead overflow channels view appended =>
      exact ⟨channels, pinned.trans ⟨_, appended, geometry_leadCalls ..⟩⟩

def outlineCalls (buffer : BufferId) (outline : List Segment) (during : Moment) :
    List DriverCall :=
  [ .createVertexArray buffer ((outline.flatMap Segment.vertices).flatMap Vertex3.toBytes),
    .setVertexPointer (outlineChannel buffer).pointer,
    .drawArrays .lineList 0 (.ofNat (2 * outline.length)) during ]

theorem plots_stageOutline (outline : List Segment) :
    Plots [.createVertexArray ⟨s.buffers.size⟩
      ((outline.flatMap Segment.vertices).flatMap Vertex3.toBytes)] s
      (s.stageOutline outline).2 := by
  have added : Plots [.createVertexArray ⟨s.buffers.size⟩
      ((outline.flatMap Segment.vertices).flatMap Vertex3.toBytes)] s (s.addOutline outline).2 :=
    ⟨[_], Array.toList_push, rfl⟩
  have piped (t : Scene) : Plots [] t t.wirePipeline.2 := by
    unfold Scene.wirePipeline
    split
    · exact .of_told rfl
    · exact ⟨[.createPipeline], Array.toList_push, rfl⟩
  exact added.trans ((piped _).trans ⟨[], (List.append_nil _).symm, rfl⟩)

theorem plots_drawOutline (outline : List Segment) :
    Ensures (fun t => t = s) (drawOutline drawLines outline)
      (fun _ t => ∃ buffer during, Plots (outlineCalls buffer outline during) s t)
      (fun _ _ => False) := by
  let staged := (s.stageOutline outline).2.setOutlines false
  let lines := lineDraw outline (s.stageOutline outline).1
  have upload : Plots [.createVertexArray ⟨s.buffers.size⟩ _] s staged :=
    plots_stageOutline s outline
  have drawn := (plots_drawOnce staged lines {}).and (drawLines_completes s outline)
  refine ensures_drawOutline (drawn.mono ?_ fun _ _ => And.right)
  rintro _ t ⟨⟨channels, start, during, readable, _, plots⟩, _⟩
  have own : staged.channels lines.attributes = .ok [outlineChannel ⟨s.buffers.size⟩] :=
    channels_stageOutline s outline
  cases own.symm.trans readable
  exact ⟨_, during, upload.trans plots⟩

/-- What a draw does with vertices: it uploads none, or those of its outline after its own call. -/
inductive DrawRequest.Sketch (request : DrawRequest) : List DriverCall → Prop
  | plain {shapes : List DriverCall} (none : ∀ call ∈ shapes, call.isUpload = false) :
    Sketch request shapes
  | outlined {channels : List Channel} {start : UInt64} {outline : List Segment}
    {buffer : BufferId} {during during' : Moment}
    (readable : s.channels request.attributes = .ok channels)
    (addressed : request.address s = .ok start) (read : request.outline s = .ok outline)
    (drawn : outline ≠ []) :
    Sketch request (placements channels ++ request.call start during ::
      outlineCalls buffer outline during')

theorem not_upload_of_placements {channels : List Channel} :
    ∀ call ∈ placements channels, call.isUpload = false := by
  intro call inside
  obtain ⟨c, _, rfl⟩ := List.mem_map.mp inside
  rfl

theorem plots_draw {request : DrawRequest} {prevalidated : Bool}
    (inRange : (Operation.draw request prevalidated).InRange s) :
    ∃ shapes, request.Sketch s shapes ∧
      Plots shapes s ((Operation.draw request prevalidated).after s) := by
  let Drawn (t : Scene) := ∃ shapes, request.Sketch s shapes ∧ Plots shapes s t
  let Told (t : Scene) := ∃ channels start during,
    s.channels request.attributes = .ok channels ∧ request.address s = .ok start ∧
      Plots (placements channels ++ [request.call start during]) s t
  let Own (t : Scene) := Told t ∧ request.outline t = request.outline s
  have bare (t : Scene) : Told t → Drawn t := by
    rintro ⟨channels, start, during, _, _, plots⟩
    refine ⟨_, .plain fun call inside => ?_, plots⟩
    rcases List.mem_append.mp inside with placed | drawn
    · exact not_upload_of_placements call placed
    · rw [List.mem_singleton.mp drawn, DrawRequest.call]
      split <;> rfl
  have told (t u : Scene) (same : u.told = t.told) : Told t → Told u := by
    rintro ⟨channels, start, during, readable, addressed, plots⟩
    exact ⟨channels, start, during, readable, addressed, plots.told same⟩
  refine ensures_iff_after.mp (ensures_draw (E := fun _ => Drawn) (fun t ready => ?_)
    fun options => ?_)
  · exact ⟨[], .plain fun _ inside => absurd inside List.not_mem_nil, .of_readied ready⟩
  refine .of_each fun t ready => drawWith_ensures (M := Own) ?_ ?_ ?_ ?_
  · have store := SameStore.of_readied ready
    have drawn := ((plots_drawOnce t request options).and (kept_drawOnce t request options
      (store.attributes ▸ inRange))).and_after (R := fun u => u.mapCounts = t.mapCounts)
        (mapCounts_drawOnce t request options)
    refine drawn.mono ?_ ?_
    · rintro _ u ⟨⟨⟨channels, start, during, readable, addressed, plots⟩, kept⟩, counts⟩
      obtain ⟨textures, log, calls, same⟩ := ready.same
      have counts' : t.mapCounts = s.mapCounts := by rw [same]; rfl
      rw [store.sources.channels] at readable
      rw [store.sources.address] at addressed
      exact ⟨⟨channels, start, during, readable, addressed,
        (Plots.of_readied ready).trans plots⟩,
        (store.trans (.of_kept kept)).outline (counts.trans counts') request⟩
    · rintro _ u ⟨⟨channels, plots⟩, _⟩
      exact ⟨_, .plain not_upload_of_placements, (Plots.of_readied ready).trans plots⟩
  · exact fun t u own same _ => bare u (told t u same.told own.1)
  · exact fun t u cause own cut _ _ => bare u (told t u cut.told own.1)
  · rintro t u outline own same _ read nonempty
    rw [own.2] at read
    obtain ⟨channels, start, during, readable, addressed, plots⟩ := told t u same.told own.1
    refine (plots_drawOutline u outline).mono ?_ fun _ _ => False.elim
    rintro _ v ⟨buffer, during', lines⟩
    have whole := plots.trans lines
    rw [List.append_assoc] at whole
    exact ⟨_, .outlined readable addressed read nonempty, whole⟩

end Draw

/-- The number of the vertex that a draw call fetches at a position. Offsets of indices count from
where their buffer is bound. -/
def DriverCall.vertex? (s : Scene) (k : Nat) : DriverCall → Option Nat
  | drawArrays _ first _ _ => some (first.toNat + k)
  | drawElements _ _ format buffer offset _ =>
    let start := offset.toNat - (s.buffer buffer).base.toNat
    (window? (s.buffer buffer).contents (start + k * format.size) format.size).map
      LittleEndian.decode
  | _ => none

namespace LittleEndian

def pad (size : Nat) (bytes : List UInt8) : List UInt8 :=
  bytes ++ List.replicate (size - bytes.length) 0

theorem encode_zero (count : Nat) : encode count 0 = List.replicate count 0 := by
  induction count with
  | zero => rfl
  | succ count ih =>
    rw [encode, Nat.zero_div, ih]
    rfl

theorem encode_decode {count : Nat} {bytes : List UInt8} (h : bytes.length ≤ count) :
    encode count (decode bytes) = pad count bytes := by
  induction bytes generalizing count with
  | nil => exact encode_zero count
  | cons byte bytes ih =>
    obtain ⟨rest, rfl⟩ : ∃ rest, count = rest + 1 := ⟨count - 1, by simp at h; omega⟩
    have small : byte.toNat < 256 := byte.toNat_lt
    have low : (byte.toNat + 256 * decode bytes) % 256 = byte.toNat := by omega
    have high : (byte.toNat + 256 * decode bytes) / 256 = decode bytes := by omega
    rw [decode, encode, low, high, ih (Nat.le_of_succ_le_succ h), UInt8.ofNat_toNat]
    simp only [pad, List.length_cons, Nat.add_sub_add_right, List.cons_append]

theorem pad_append (first rest : Nat) (bytes : List UInt8) :
    pad first (bytes.take first) ++ pad rest (bytes.drop first) = pad (first + rest) bytes := by
  by_cases short : bytes.length ≤ first
  · have zeros : first - bytes.length + rest = first + rest - bytes.length := by omega
    rw [List.take_of_length_le short, List.drop_of_length_le short, pad, pad, pad,
      List.append_assoc, List.nil_append, List.length_nil, Nat.sub_zero,
      List.replicate_append_replicate, zeros]
  · have taken : (bytes.take first).length = first := List.length_take_of_le (by omega)
    have zeros : rest - (bytes.length - first) = first + rest - bytes.length := by omega
    rw [pad, taken, Nat.sub_self, List.replicate_zero, List.append_nil, pad, List.length_drop,
      ← List.append_assoc, List.take_append_drop, zeros, pad]

end LittleEndian

namespace Pointer

def step (pointer : Pointer) : Nat :=
  if pointer.stride = 0 then 4 * pointer.components.toNat else pointer.stride.toNat

/-- The coordinates of a vertex, three at most, filled up with zeros. -/
def coordinates? (s : Scene) (pointer : Pointer) (v : Nat) : Option (List UInt8) :=
  let start := pointer.offset.toNat - (s.buffer pointer.buffer).base.toNat
  (window? (s.buffer pointer.buffer).contents (start + v * pointer.step)
    (4 * min pointer.components.toNat 3)).map (LittleEndian.pad Vertex3.size)

end Pointer

theorem length_flatMap_of_two {α β : Type} {f : α → List β} (two : ∀ x, (f x).length = 2)
    (xs : List α) : (xs.flatMap f).length = 2 * xs.length := by
  induction xs with
  | nil => rfl
  | cons x xs ih =>
    rw [List.flatMap_cons, List.length_append, two, ih, List.length_cons]
    omega

def fetched? (s : Scene) (pointer : Pointer) (call : DriverCall) (edges : List Edge) :
    Option (List UInt8) :=
  List.flatten <$> (corners edges).mapM fun k => do pointer.coordinates? s (← call.vertex? s k)

theorem Binary32.toBytes_ofBytes {bytes : List UInt8} (h : bytes.length ≤ 4) :
    (Binary32.ofBytes bytes).toBytes = LittleEndian.pad 4 bytes := by
  have fits : LittleEndian.decode bytes < UInt32.size :=
    Nat.lt_of_lt_of_le (LittleEndian.decode_lt bytes) (Nat.pow_le_pow_right (by decide) h)
  rw [Binary32.toBytes, Binary32.ofBytes, UInt32.toNat_ofNat_of_lt' fits,
    LittleEndian.encode_decode h]

theorem Vertex3.toBytes_ofBytes {bytes : List UInt8} (h : bytes.length ≤ Vertex3.size) :
    (Vertex3.ofBytes bytes).toBytes = LittleEndian.pad Vertex3.size bytes := by
  have component (rest : List UInt8) : (Binary32.ofBytes (rest.take 4)).toBytes =
      LittleEndian.pad 4 (rest.take 4) :=
    Binary32.toBytes_ofBytes (List.length_take_le ..)
  have last : (bytes.drop 8).take 4 = (bytes.drop 4).drop 4 := by
    rw [List.drop_drop]
    refine List.take_of_length_le ?_
    rw [List.length_drop]
    exact Nat.sub_le_of_le_add h
  have tail : LittleEndian.pad 4 ((bytes.drop 4).take 4) ++
      LittleEndian.pad 4 ((bytes.drop 8).take 4) = LittleEndian.pad 8 (bytes.drop 4) := by
    rw [last, LittleEndian.pad_append]
  have whole : LittleEndian.pad 4 (bytes.take 4) ++ LittleEndian.pad 8 (bytes.drop 4) =
      LittleEndian.pad Vertex3.size bytes :=
    LittleEndian.pad_append 4 8 bytes
  rw [← whole, ← tail, ← List.append_assoc]
  simp only [Vertex3.toBytes, Vertex3.ofBytes, component]
  rfl

section Fidelity
variable {s : Scene}

theorem coordinates?_eq {a : VertexAttribute} {pointer : Pointer} (float : a.layout.type = .float)
    (h : a.pointer (s.buffer a.buffer).base = .ok pointer) (v : Nat) :
    pointer.coordinates? s v =
      (window? (s.view a.buffer).bytes (a.layout.address v) a.layout.width).map
        (LittleEndian.pad Vertex3.size) := by
  unfold VertexAttribute.pointer at h
  cases sum : addChecked (s.buffer a.buffer).base a.layout.offset with
  | error cause =>
    rw [sum] at h
    cases h
  | ok offset =>
    rw [sum] at h
    cases h
    have counted : offset.toNat - (s.buffer a.buffer).base.toNat = a.layout.offset.toNat := by
      rw [addChecked_eq_ok_iff.mp sum]
      omega
    let pointer : Pointer :=
      ⟨a.buffer, a.layout.components, a.layout.type, a.layout.stride, offset⟩
    have step : pointer.step = a.layout.effectiveStride.toNat := by
      have few := a.layout.components.toNat_lt
      simp only [pointer, Pointer.step, VertexLayout.effectiveStride, float, ComponentType.size]
      split
      · have small : a.layout.components.toNat * 4 < UInt64.size := by
          have room : 4 * 2 ^ 8 ≤ UInt64.size := by decide
          omega
        rw [UInt64.toNat_ofNat_of_lt' small, Nat.mul_comm]
      · rfl
    change pointer.coordinates? s v = _
    rw [Pointer.coordinates?, counted, step]
    rfl

/-- Only the sums on the way to an index can leave their word, and the last one does if another
does. -/
theorem address_eq_check (indices : Indices) (base : UInt64) (first : UInt32) :
    indices.address base first = Overflow.add.check (base.toNat + indices.place first.toNat) := by
  have product : indices.format.size * first.toNat < UInt64.size := by
    have narrow : indices.format.size ≤ 4 := by cases indices.format <;> decide
    have word : first.toNat < UInt32.size := first.toNat_lt_size
    have room : 4 * UInt32.size ≤ UInt64.size := by decide
    exact Nat.lt_of_lt_of_le (Nat.mul_lt_mul_of_le_of_lt narrow word (by decide)) room
  have skipped : mulChecked (.ofNat indices.format.size) first.toUInt64 =
      .ok (.ofNat (indices.format.size * first.toNat)) := by
    rw [mulChecked_eq_ok_iff, UInt64.toNat_ofNat_of_lt' product, IndexFormat.toNat_size,
      UInt32.toNat_toUInt64]
  unfold Indices.address IndexFormat.byteOffset
  cases sum : addChecked base indices.offset with
  | error cause =>
    obtain ⟨rfl, large⟩ := Overflow.check_eq_error_iff.mp sum
    refine (Overflow.check_eq_error_iff.mpr ⟨rfl, Nat.le_trans large ?_⟩).symm
    rw [Indices.place, ← Nat.add_assoc]
    exact Nat.le_add_right ..
  | ok origin =>
    rw [skipped]
    change addChecked origin (.ofNat (indices.format.size * first.toNat)) = _
    rw [addChecked, addChecked_eq_ok_iff.mp sum, UInt64.toNat_ofNat_of_lt' product, Indices.place,
      Nat.mul_comm indices.format.size, Nat.add_assoc]

theorem toNat_address {indices : Indices} {base start : UInt64} {first : UInt32}
    (h : indices.address base first = .ok start) :
    start.toNat = base.toNat + indices.place first.toNat :=
  Overflow.check_eq_ok_iff.mp (address_eq_check indices base first ▸ h)

theorem vertex?_call {request : DrawRequest} {start : UInt64}
    (addressed : request.address s = .ok start) (during : Moment) (k : Nat) :
    (request.call start during).vertex? s k = (request.source s).vertex? k := by
  unfold DrawRequest.address at addressed
  unfold DrawRequest.call DrawRequest.source IndexSource.vertex?
  cases indexed : request.indices with
  | none => rfl
  | some indices =>
    rw [indexed] at addressed
    simp only [Option.map_some, DriverCall.vertex?]
    have counted : start.toNat - (s.buffer indices.buffer).base.toNat + k * indices.format.size =
        indices.place (request.first.toNat + k) := by
      rw [toNat_address addressed, Nat.add_sub_cancel_left, Indices.place, Indices.place,
        Nat.add_mul, Nat.add_assoc]
    rw [counted]
    rfl

theorem channels_append {xs ys : List AttributeId} {channels : List Channel}
    (h : s.channels (xs ++ ys) = .ok channels) :
    ∃ cs ds, s.channels xs = .ok cs ∧ s.channels ys = .ok ds ∧ channels = cs ++ ds := by
  rw [Scene.channels, List.map_append, List.filter_append] at h
  exact mapM_append_eq_ok h

theorem channels_cons {id : AttributeId} {ids : List AttributeId} {channels : List Channel}
    (readable : (s.attr id).readable = true) (h : s.channels (id :: ids) = .ok channels) :
    ∃ c others, s.channel (s.attr id) = .ok c ∧ channels = c :: others := by
  rw [Scene.channels, List.map_cons, List.filter_cons_of_pos readable] at h
  obtain ⟨c, others, own, _, rfl⟩ := mapM_cons_eq_ok h
  exact ⟨c, others, own, rfl⟩

theorem channel_pointer {a : VertexAttribute} {c : Channel} (h : s.channel a = .ok c) :
    a.pointer (s.buffer a.buffer).base = .ok c.pointer := by
  unfold Scene.channel at h
  cases addressed : a.pointer (s.buffer a.buffer).base with
  | error overflow =>
    rw [addressed] at h
    cases h
  | ok pointer =>
    rw [addressed] at h
    cases h
    rfl

theorem placements_of_outlined {attributes : List AttributeId} {position : AttributeId}
    {channels : List Channel} (found : s.outlined? attributes = some position)
    (readable : (s.attr position).readable = true) (h : s.channels attributes = .ok channels) :
    ∃ pointer others, placements channels = .setVertexPointer pointer :: others ∧
      (s.attr position).pointer (s.buffer (s.attr position).buffer).base = .ok pointer := by
  obtain ⟨role, before, after, rfl, others⟩ := List.find?_eq_some_iff_append.mp found
  obtain ⟨cs, ds, earlier, rest, rfl⟩ := channels_append h
  obtain ⟨c, later, own, rfl⟩ := channels_cons readable rest
  have none : ofRole .position cs = [] := by
    refine List.filter_eq_nil_iff.mpr fun c inside position => ?_
    obtain ⟨id, member, same⟩ :=
      List.mem_map.mp ((roles_sublist earlier).subset (List.mem_map_of_mem inside))
    have apart : (s.attr id).role ≠ .position := by
      simpa [(s.attr id).named] using others id member
    exact apart (same.trans (beq_iff_eq.mp position))
  have placed : ofRole .position (c :: later) = c :: ofRole .position later := by
    refine List.filter_cons_of_pos (beq_iff_eq.mpr ?_)
    rw [channel_role own]
    exact (s.attr position).named.mpr (beq_iff_eq.mp role)
  have split : ofRole .position (cs ++ c :: later) =
      ofRole .position cs ++ ofRole .position (c :: later) :=
    List.filter_append ..
  refine ⟨c.pointer, placements later, ?_, channel_pointer own⟩
  rw [placements, split, none, List.nil_append, placed, List.map_cons, placements]

theorem upload_of_outlined {request : DrawRequest} {channels : List Channel} {start : UInt64}
    {outline : List Segment} {made buffer : BufferId} {during during' : Moment} {data : List UInt8}
    (h : .createVertexArray buffer data ∈ placements channels ++ request.call start during ::
      outlineCalls made outline during') :
    buffer = made ∧ data = (outline.flatMap Segment.vertices).flatMap Vertex3.toBytes := by
  rcases List.mem_append.mp h with placed | later
  · cases not_upload_of_placements _ placed
  · rcases List.mem_cons.mp later with own | lines
    · have draws := request.isDraw_call start during
      rw [← own] at draws
      cases draws
    · simpa [outlineCalls] using lines

section Read
variable {request : DrawRequest} {outline : List Segment} {position : AttributeId}

theorem DrawRequest.Outlines.readable (h : request.Outlines s position) :
    (s.attr position).readable = true := by
  have name := List.find?_some h.found
  have role : (s.attr position).role = .position := (s.attr position).named.mpr (beq_iff_eq.mp name)
  rw [VertexAttribute.readable, role, h.float]
  rfl

theorem corners_of_outlines (h : request.Outlines s position)
    (read : request.outline s = .ok outline) :
    (corners request.edges).mapM (request.corner s position) =
      .ok (outline.flatMap Segment.vertices) := by
  rw [← outline_of_outlines h, read]
  rfl

theorem length_outline (h : request.Outlines s position)
    (read : request.outline s = .ok outline) : outline.length = request.edges.length := by
  have lengths := length_of_mapM (corners_of_outlines h read)
  have ends : (corners request.edges).length = 2 * request.edges.length :=
    length_flatMap_of_two (fun _ => rfl) request.edges
  have vertices : (outline.flatMap Segment.vertices).length = 2 * outline.length :=
    length_flatMap_of_two (fun _ => rfl) outline
  omega

theorem fetched_of_outlines {pointer : Pointer} {start : UInt64} {during : Moment}
    (h : request.Outlines s position)
    (pointed : (s.attr position).pointer (s.buffer (s.attr position).buffer).base = .ok pointer)
    (addressed : request.address s = .ok start) (read : request.outline s = .ok outline) :
    fetched? s pointer (request.call start during) request.edges =
      some ((outline.flatMap Segment.vertices).flatMap Vertex3.toBytes) := by
  have each : ∀ k ∈ corners request.edges, ∀ vertex, request.corner s position k = .ok vertex →
      (do pointer.coordinates? s (← (request.call start during).vertex? s k)) =
        some vertex.toBytes := by
    intro k inside vertex fetched
    obtain ⟨v, named, bytes, window, same⟩ :=
      fetchCorner_eq_ok (small_of_mem_corners s inside) fetched
    have short : bytes.length ≤ Vertex3.size := by
      rw [length_window? window, VertexLayout.width, Vertex3.size]
      omega
    rw [vertex?_call addressed, named]
    change pointer.coordinates? s v = _
    rw [coordinates?_eq h.float pointed, window, ← same, Vertex3.toBytes_ofBytes short]
    rfl
  rw [fetched?, mapM_transfer each (corners_of_outlines h read), List.flatMap_def]
  rfl

end Read

/-- The recorded calls place the vertices of a draw through a pointer first, draw them, upload what
the draw call fetches through the pointer at the ends of the edges, and draw that as lines. -/
structure DrawRequest.Traced (request : DrawRequest) (s : Scene) (calls : List DriverCall)
    (buffer : BufferId) (data : List UInt8) (position : AttributeId) (pointer : Pointer)
    (own : DriverCall) : Prop where
  outlined : s.outlined? request.attributes = some position
  pointed : (s.attr position).pointer (s.buffer (s.attr position).buffer).base = .ok pointer
  issued : ∃ start during, request.address s = .ok start ∧ own = request.call start during
  shapes : ∃ others count during, geometry calls = .setVertexPointer pointer :: others ++
      [own, .createVertexArray buffer data, .setVertexPointer ⟨buffer, 3, .float, 12, 0⟩,
        .drawArrays .lineList 0 count during] ∧
    (∀ call ∈ others, call.isPointer = true) ∧ count.toNat = 2 * request.edges.length
  fetched : fetched? s pointer own request.edges = some data

/-- The vertices that are uploaded for the outline of a draw are those that its recorded draw call
fetches, through the recorded pointer of its first position attribute, at the ends of its edges. -/
theorem outline_traces_draw {request : DrawRequest} {prevalidated : Bool}
    (inRange : (Operation.draw request prevalidated).InRange s)
    (few : 2 * request.edges.length < UInt32.size) {buffer : BufferId} {data : List UInt8}
    (uploaded : .createVertexArray buffer data ∈
      ((Operation.draw request prevalidated).after s).callsSince s.calls.size) :
    ∃ position pointer own, request.Traced s
      (((Operation.draw request prevalidated).after s).callsSince s.calls.size) buffer data
      position pointer own := by
  obtain ⟨shapes, sketch, calls, appended, same⟩ := plots_draw s inRange
  rw [callsSince_of_append appended] at uploaded ⊢
  have shown : .createVertexArray buffer data ∈ shapes :=
    same ▸ List.mem_filter.mpr ⟨uploaded, rfl⟩
  cases sketch with
  | plain none => cases none _ shown
  | @outlined channels start outline made during during' readable addressed read drawn =>
    obtain ⟨rfl, rfl⟩ := upload_of_outlined shown
    obtain ⟨position, outlines⟩ : ∃ position, request.Outlines s position :=
      exists_outlines (by simpa [read] using drawn) (by simp [read]) (by simp [read])
    obtain ⟨pointer, others, placed, pointed⟩ :=
      placements_of_outlined outlines.found outlines.readable readable
    refine ⟨position, pointer, request.call start during, outlines.found, pointed,
      ⟨start, during, addressed, rfl⟩, ⟨others, .ofNat (2 * outline.length), during', ?_, ?_, ?_⟩,
      fetched_of_outlines outlines pointed addressed read⟩
    · rw [same, placed]
      rfl
    · intro call inside
      have member : call ∈ placements channels := placed ▸ List.mem_cons_of_mem _ inside
      obtain ⟨c, _, rfl⟩ := List.mem_map.mp member
      rfl
    · rw [length_outline outlines read, UInt32.toNat_ofNat_of_lt' few]

/-- Vertices of two coordinates from the second word of a buffer on, and indices of two bytes from
the third byte of another on. -/
def tracedRun : List Operation :=
  [ .newBuffer ((Array.range 28).map UInt8.ofNat) (.device 16),
    .newBuffer #[9, 9, 0, 0, 2, 0, 1, 0, 0, 0] (.device 8),
    .newAttribute false ⟨0⟩ "strand_position_in" ⟨2, .float, 0, 4⟩,
    .changeSettings { debugFlags := DebugFlags.wireframe } ]

theorem outline_traces_draw_tracedRun :
    let s := (Scene.create {} []).run tracedRun
    let request : DrawRequest := ⟨.triangleList, 1, 3, [⟨0⟩], some ⟨⟨1⟩, .uint16, 2⟩⟩
    let calls := ((Operation.draw request true).after s).callsSince s.calls.size
    let vertex (v : Nat) := (List.range' (4 + 8 * v) 8).map UInt8.ofNat ++ [0, 0, 0, 0]
    let data := [2, 1, 1, 0, 0, 2].flatMap vertex
    (Operation.draw request true).InRange s ∧ 2 * request.edges.length < UInt32.size ∧
      .createVertexArray ⟨2⟩ data ∈ calls ∧
        ∃ position pointer own, request.Traced s calls ⟨2⟩ data position pointer own := by
  intro s request calls vertex data
  have inRange : (Operation.draw request true).InRange s := by decide +kernel
  have few : 2 * request.edges.length < UInt32.size := by decide
  have uploaded : .createVertexArray ⟨2⟩ data ∈ calls := by decide +kernel
  exact ⟨inRange, few, uploaded, outline_traces_draw inRange few uploaded⟩

end Fidelity

end DrawSubmission
