import NwbLot.Telemetry.Payloads

/-!
# Building the payload of a frame graph

`BuildFrameGraphPayload` appends a header, the nodes, the edges and a table of the labels that the
nodes name by their offsets.  What it refuses and what it builds is said by one equation.

`EncodableGraph` is what is asked of the nodes and edges, and `frameGraphBytes` the bytes of such
a graph; the sums of sizes are checked for overflow as the source does.
-/

namespace NwbLot.Telemetry

open Guarded (ok_bind)

/-- `Limit<u32>::s_Max`. -/
def u32Max : ℕ := 2 ^ 32 - 1

/-- A node as the caller describes it. -/
structure FrameGraphNodeDesc where
  name : NameHash
  label : List UInt8
  kind : UInt8
  flags : UInt8
  deriving DecidableEq

/-- An edge as the caller describes it. -/
structure FrameGraphEdgeDesc where
  fromNodeIndex : UInt32
  toNodeIndex : UInt32
  kind : UInt8
  flags : UInt8
  deriving DecidableEq, Repr

/-- The text can stand in a table of terminated strings. -/
def isValidStringTableText (text : List UInt8) : Bool :=
  !text.isEmpty && !text.contains 0 && decide (text.length < u32Max)

/-- The checks of a node that is described. -/
def validateNodeInput (node : FrameGraphNodeDesc) : Bool :=
  !isZeroHash node.name && isValidFrameGraphNodeKind node.kind && isValidStringTableText node.label

/-- The checks of an edge that is described. -/
def validateEdgeInput (nodeCount : ℕ) (edge : FrameGraphEdgeDesc) : Bool :=
  isValidFrameGraphEdgeKind edge.kind && decide (edge.fromNodeIndex.toNat < nodeCount) &&
    decide (edge.toNodeIndex.toNat < nodeCount)

/-! ## The string table -/

/-- `AddStringTableTextReserveBytes`. -/
def addStringTableTextReserveBytes (bytes : ℕ) (text : List UInt8) : Guarded (Option ℕ) :=
  if text = [] then .ok none
  else if text.length > usizeMax - 1 then .ok none
  else do
    let byteCount ← Guarded.add text.length 1
    if byteCount > u32Max then return none
    else if bytes > u32Max - byteCount then return none
    else return addBinaryReserveBytes bytes byteCount

/-- `AppendStringTableText`: the table with the text at its end, and the offset of the text. -/
def appendStringTableText (stringTable text : List UInt8) :
    Guarded (Option (List UInt8 × UInt32)) := do
  match ← addStringTableTextReserveBytes stringTable.length text with
  | none => return none
  | some _ => return some (stringTable ++ text ++ [0], UInt32.ofNat stringTable.length)

/-- The first loop over the nodes: the size of the string table. -/
def reserveStringTable : ℕ → List FrameGraphNodeDesc → Guarded (Option ℕ)
  | stringTableBytes, [] => .ok (some stringTableBytes)
  | stringTableBytes, node :: nodes =>
    if validateNodeInput node = false then .ok none
    else do
      match ← addStringTableTextReserveBytes stringTableBytes node.label with
      | none => return none
      | some stringTableBytes => reserveStringTable stringTableBytes nodes

/-- The second loop over the nodes: their encodings, and the string table. -/
def encodeNodes : List UInt8 → List FrameGraphNodeDesc →
    Guarded (Option (List EncodedFrameGraphNode × List UInt8))
  | stringTable, [] => .ok (some ([], stringTable))
  | stringTable, node :: nodes => do
    match ← appendStringTableText stringTable node.label with
    | none => return none
    | some (stringTable, labelOffset) =>
      match ← encodeNodes stringTable nodes with
      | none => return none
      | some (encodedNodes, stringTable) =>
        return some ({ nameHash := node.name, labelOffset, kind := node.kind, flags := node.flags
                       reserved := 0 } :: encodedNodes, stringTable)

/-- An edge as the edge table holds it. -/
def encodeEdge (edge : FrameGraphEdgeDesc) : EncodedFrameGraphEdge where
  fromNodeIndex := edge.fromNodeIndex
  toNodeIndex := edge.toNodeIndex
  kind := edge.kind
  flags := edge.flags
  reserved := 0

/-! ## The payload -/

/-- `AppendPOD`, whose exception for a size that does not fit is a fault here. -/
def appendPod {α : Type} (codec : PodCodec α) (outBinary : List UInt8) (value : α) :
    Guarded (List UInt8) := do
  let _ ← Guarded.add outBinary.length codec.size
  return outBinary ++ codec.encode value

/-- The size of a payload. -/
def framePayloadBytes (nodeCount edgeCount stringTableBytes : ℕ) : Guarded (Option ℕ) := do
  match ← addBinaryRepeatedReserveBytes frameGraphHeaderCodec.size nodeCount
      frameGraphNodeCodec.size with
  | none => return none
  | some withNodes =>
    match ← addBinaryRepeatedReserveBytes withNodes edgeCount frameGraphEdgeCodec.size with
    | none => return none
    | some withEdges => return addBinaryReserveBytes withEdges stringTableBytes

/-- `BuildFrameGraphPayload`: the payload, unless the graph is refused. -/
def buildFrameGraphPayload (frameIndex : UInt64) (nodes : List FrameGraphNodeDesc)
    (edges : List FrameGraphEdgeDesc) : Guarded (Option (List UInt8)) :=
  if nodes.length > u32Max ∨ edges.length > u32Max then .ok none
  else do
    match ← reserveStringTable 0 nodes with
    | none => return none
    | some stringTableBytes =>
      if edges.all (validateEdgeInput nodes.length) = false then return none
      else
        match ← framePayloadBytes nodes.length edges.length stringTableBytes with
        | none => return none
        | some payloadBytes =>
          match ← encodeNodes [] nodes with
          | none => return none
          | some (encodedNodes, stringTable) =>
            let header : EncodedFrameGraphPayloadHeader :=
              { magic := 0x4E574647, version := 1, reserved := 0, frameIndex
                nodeCount := UInt32.ofNat nodes.length
                edgeCount := UInt32.ofNat edges.length
                stringTableBytes := UInt32.ofNat stringTable.length }
            let withHeader ← appendPod frameGraphHeaderCodec [] header
            let withNodes ← encodedNodes.foldlM (appendPod frameGraphNodeCodec) withHeader
            let withEdges ← (edges.map encodeEdge).foldlM (appendPod frameGraphEdgeCodec) withNodes
            let outPayload := withEdges ++ stringTable
            if outPayload.length = payloadBytes then return some outPayload else return none

/-! ## What is built -/

/-- The labels, each closed by a null byte. -/
def labelTable (nodes : List FrameGraphNodeDesc) : List UInt8 :=
  nodes.flatMap fun node => node.label ++ [0]

/-- The encodings of nodes whose labels begin at an offset of the table. -/
def encodedNodesAt : ℕ → List FrameGraphNodeDesc → List EncodedFrameGraphNode
  | _, [] => []
  | offset, node :: nodes =>
    { nameHash := node.name, labelOffset := UInt32.ofNat offset, kind := node.kind
      flags := node.flags, reserved := 0 } ::
      encodedNodesAt (offset + (node.label.length + 1)) nodes

/-- The header that belongs to the nodes and edges. -/
def frameGraphHeader (frameIndex : UInt64) (nodes : List FrameGraphNodeDesc)
    (edges : List FrameGraphEdgeDesc) : EncodedFrameGraphPayloadHeader where
  magic := 0x4E574647
  version := 1
  reserved := 0
  frameIndex := frameIndex
  nodeCount := UInt32.ofNat nodes.length
  edgeCount := UInt32.ofNat edges.length
  stringTableBytes := UInt32.ofNat (labelTable nodes).length

/-- The bytes of a frame graph. -/
def frameGraphBytes (frameIndex : UInt64) (nodes : List FrameGraphNodeDesc)
    (edges : List FrameGraphEdgeDesc) : List UInt8 :=
  frameGraphHeaderCodec.encode (frameGraphHeader frameIndex nodes edges) ++
    (encodedNodesAt 0 nodes).flatMap frameGraphNodeCodec.encode ++
    (edges.map encodeEdge).flatMap frameGraphEdgeCodec.encode ++ labelTable nodes

/-- The graphs that are not refused. -/
structure EncodableGraph (nodes : List FrameGraphNodeDesc) (edges : List FrameGraphEdgeDesc) :
    Prop where
  nodeCount : nodes.length ≤ u32Max
  edgeCount : edges.length ≤ u32Max
  validNodes : ∀ node ∈ nodes, validateNodeInput node = true
  validEdges : ∀ edge ∈ edges, validateEdgeInput nodes.length edge = true
  stringTable : (labelTable nodes).length ≤ u32Max

lemma labelTable_cons (node : FrameGraphNodeDesc) (nodes : List FrameGraphNodeDesc) :
    labelTable (node :: nodes) = node.label ++ [0] ++ labelTable nodes := rfl

lemma length_labelTable_cons (node : FrameGraphNodeDesc) (nodes : List FrameGraphNodeDesc) :
    (labelTable (node :: nodes)).length = node.label.length + 1 + (labelTable nodes).length := by
  rw [labelTable_cons, List.length_append, List.length_append, List.length_singleton]

lemma length_encodedNodesAt (offset : ℕ) (nodes : List FrameGraphNodeDesc) :
    (encodedNodesAt offset nodes).length = nodes.length := by
  induction nodes generalizing offset with
  | nil => rfl
  | cons node nodes ih => rw [encodedNodesAt, List.length_cons, ih, List.length_cons]

lemma length_flatMap_encode {α : Type} (codec : PodCodec α) (values : List α) :
    (values.flatMap codec.encode).length = values.length * codec.size := by
  induction values with
  | nil => exact (Nat.zero_mul _).symm
  | cons value values ih =>
    rw [List.flatMap_cons, List.length_append, codec.length_encode, ih, List.length_cons,
      Nat.succ_mul, Nat.add_comm]

/-! ### The sums of sizes -/

lemma addBinaryReserveBytes_eq {bytes additionalBytes : ℕ}
    (h : bytes + additionalBytes ≤ usizeMax) :
    addBinaryReserveBytes bytes additionalBytes = some (bytes + additionalBytes) :=
  if_neg (by omega)

lemma addBinaryRepeatedReserveBytes_eq {bytes count bytesPerItem : ℕ}
    (h : bytes + count * bytesPerItem ≤ usizeMax) :
    addBinaryRepeatedReserveBytes bytes count bytesPerItem =
      .ok (some (bytes + count * bytesPerItem)) := by
  have hcount : ¬(bytesPerItem ≠ 0 ∧ count > usizeMax / bytesPerItem) := by
    rintro ⟨hitem, hcount⟩
    have hlt := (Nat.div_lt_iff_lt_mul (Nat.pos_of_ne_zero hitem)).1 hcount
    omega
  have hmax : usizeMax < 2 ^ 64 := by decide
  rw [addBinaryRepeatedReserveBytes, if_neg hcount, Guarded.mul_eq (by omega)]
  show Except.ok (addBinaryReserveBytes bytes (count * bytesPerItem)) = _
  rw [addBinaryReserveBytes_eq h]

/-- A text fits the table when it is not empty and the table stays below the largest offset. -/
lemma addStringTableTextReserveBytes_eq {bytes : ℕ} {text : List UInt8} (htext : text ≠ [])
    (hlength : text.length < u32Max) :
    addStringTableTextReserveBytes bytes text =
      .ok (if bytes + (text.length + 1) ≤ u32Max then some (bytes + (text.length + 1))
        else none) := by
  have hmax : usizeMax = 2 ^ 64 - 1 := rfl
  have hmax32 : u32Max = 2 ^ 32 - 1 := rfl
  rw [addStringTableTextReserveBytes, if_neg htext, if_neg (by omega),
    Guarded.add_eq (by omega)]
  show (if text.length + 1 > u32Max then _ else _) = _
  rw [if_neg (by omega)]
  by_cases hfits : bytes + (text.length + 1) ≤ u32Max
  · rw [if_neg (by omega), if_pos hfits, addBinaryReserveBytes_eq (by omega)]
    rfl
  · rw [if_pos (by omega), if_neg hfits]
    rfl

lemma text_of_validateNodeInput {node : FrameGraphNodeDesc} (h : validateNodeInput node = true) :
    node.label ≠ [] ∧ 0 ∉ node.label ∧ node.label.length < u32Max := by
  simp only [validateNodeInput, isValidStringTableText, Bool.and_eq_true, Bool.not_eq_true',
    List.isEmpty_eq_false_iff, decide_eq_true_eq] at h
  obtain ⟨-, ⟨hne, hnull⟩, hlength⟩ := h
  refine ⟨hne, fun hmem => ?_, hlength⟩
  rw [List.contains_iff_mem.2 hmem] at hnull
  exact Bool.noConfusion hnull

/-- The first loop over the nodes. -/
lemma reserveStringTable_eq (bytes : ℕ) (nodes : List FrameGraphNodeDesc)
    (hbytes : bytes ≤ u32Max) :
    reserveStringTable bytes nodes =
      .ok (if (∀ node ∈ nodes, validateNodeInput node = true) ∧
          bytes + (labelTable nodes).length ≤ u32Max then
        some (bytes + (labelTable nodes).length) else none) := by
  induction nodes generalizing bytes with
  | nil => exact congrArg Except.ok (if_pos ⟨fun _ h => absurd h List.not_mem_nil, hbytes⟩).symm
  | cons node nodes ih =>
    rw [reserveStringTable]
    by_cases hvalid : validateNodeInput node = true
    · rw [if_neg (Bool.not_eq_false _ ▸ hvalid)]
      obtain ⟨hne, -, hlength⟩ := text_of_validateNodeInput hvalid
      rw [addStringTableTextReserveBytes_eq hne hlength, length_labelTable_cons]
      by_cases hfits : bytes + (node.label.length + 1) ≤ u32Max
      · rw [if_pos hfits]
        show reserveStringTable _ nodes = _
        rw [ih _ hfits]
        refine congrArg Except.ok ?_
        simp only [List.forall_mem_cons, hvalid, true_and, Nat.add_assoc]
      · rw [if_neg hfits, if_neg fun h => hfits (by have := h.2; omega)]
        rfl
    · rw [if_pos (Bool.not_eq_true _ ▸ hvalid),
        if_neg fun h => hvalid (h.1 node List.mem_cons_self)]

/-- The second loop over the nodes, for which the first one has made sure that all labels fit. -/
lemma encodeNodes_eq (stringTable : List UInt8) (nodes : List FrameGraphNodeDesc)
    (hvalid : ∀ node ∈ nodes, validateNodeInput node = true)
    (hfits : stringTable.length + (labelTable nodes).length ≤ u32Max) :
    encodeNodes stringTable nodes =
      .ok (some (encodedNodesAt stringTable.length nodes, stringTable ++ labelTable nodes)) := by
  induction nodes generalizing stringTable with
  | nil =>
    show Except.ok (some ([], stringTable)) = Except.ok (some ([], stringTable ++ []))
    rw [List.append_nil]
  | cons node nodes ih =>
    obtain ⟨hnode, hnodes⟩ := List.forall_mem_cons.1 hvalid
    obtain ⟨hne, -, hlength⟩ := text_of_validateNodeInput hnode
    rw [length_labelTable_cons] at hfits
    have hbehind : (stringTable ++ node.label ++ [0]).length =
        stringTable.length + (node.label.length + 1) := by
      rw [List.length_append, List.length_append, List.length_singleton, Nat.add_assoc]
    have happend : appendStringTableText stringTable node.label =
        .ok (some (stringTable ++ node.label ++ [0], UInt32.ofNat stringTable.length)) := by
      rw [appendStringTableText, addStringTableTextReserveBytes_eq hne hlength,
        if_pos (by omega)]
      rfl
    have hrest := ih (stringTable ++ node.label ++ [0]) hnodes (by omega)
    rw [hbehind] at hrest
    rw [encodeNodes, happend]
    show (encodeNodes (stringTable ++ node.label ++ [0]) nodes >>= _) = _
    rw [hrest, labelTable_cons, encodedNodesAt, ← List.append_assoc, ← List.append_assoc]
    rfl

lemma appendPod_eq {α : Type} {codec : PodCodec α} {outBinary : List UInt8} {value : α}
    (hfits : outBinary.length + codec.size < 2 ^ 64) :
    appendPod codec outBinary value = .ok (outBinary ++ codec.encode value) := by
  rw [appendPod, Guarded.add_eq hfits]
  rfl

/-- Appending values one by one appends their encodings. -/
lemma foldlM_appendPod {α : Type} (codec : PodCodec α) (values : List α) (outBinary : List UInt8)
    (hfits : outBinary.length + values.length * codec.size < 2 ^ 64) :
    values.foldlM (appendPod codec) outBinary =
      .ok (outBinary ++ values.flatMap codec.encode) := by
  induction values generalizing outBinary with
  | nil =>
    show Except.ok outBinary = Except.ok (outBinary ++ [])
    rw [List.append_nil]
  | cons value values ih =>
    have hmul : (values.length + 1) * codec.size = values.length * codec.size + codec.size :=
      Nat.succ_mul _ _
    rw [List.length_cons, hmul] at hfits
    have hlength : (outBinary ++ codec.encode value).length = outBinary.length + codec.size := by
      rw [List.length_append, codec.length_encode]
    rw [List.foldlM_cons, appendPod_eq (by omega)]
    show values.foldlM (appendPod codec) (outBinary ++ codec.encode value) = _
    rw [ih _ (by omega), List.flatMap_cons, List.append_assoc]

lemma size_frameGraphHeader : frameGraphHeaderCodec.size = 28 := rfl
lemma size_frameGraphNode : frameGraphNodeCodec.size = 72 := rfl
lemma size_frameGraphEdge : frameGraphEdgeCodec.size = 12 := rfl

lemma length_frameGraphBytes (frameIndex : UInt64) (nodes : List FrameGraphNodeDesc)
    (edges : List FrameGraphEdgeDesc) :
    (frameGraphBytes frameIndex nodes edges).length =
      28 + nodes.length * 72 + edges.length * 12 + (labelTable nodes).length := by
  rw [frameGraphBytes, List.length_append, List.length_append, List.length_append,
    PodCodec.length_encode, length_flatMap_encode, length_flatMap_encode, length_encodedNodesAt,
    List.length_map, size_frameGraphHeader, size_frameGraphNode, size_frameGraphEdge]

lemma framePayloadBytes_eq {nodeCount edgeCount stringTableBytes : ℕ} (hnodes : nodeCount ≤ u32Max)
    (hedges : edgeCount ≤ u32Max) (htable : stringTableBytes ≤ u32Max) :
    framePayloadBytes nodeCount edgeCount stringTableBytes =
      .ok (some (28 + nodeCount * 72 + edgeCount * 12 + stringTableBytes)) := by
  have hmax : usizeMax = 2 ^ 64 - 1 := rfl
  have hmax32 : u32Max = 2 ^ 32 - 1 := rfl
  rw [framePayloadBytes, size_frameGraphHeader, size_frameGraphNode, size_frameGraphEdge,
    addBinaryRepeatedReserveBytes_eq (by omega)]
  show (addBinaryRepeatedReserveBytes (28 + nodeCount * 72) edgeCount 12 >>= _) = _
  rw [addBinaryRepeatedReserveBytes_eq (by omega)]
  show Except.ok (addBinaryReserveBytes (28 + nodeCount * 72 + edgeCount * 12) _) = _
  rw [addBinaryReserveBytes_eq (by omega)]

/-- A graph that can be encoded is. -/
lemma buildFrameGraphPayload_of_encodable (frameIndex : UInt64) {nodes : List FrameGraphNodeDesc}
    {edges : List FrameGraphEdgeDesc} (h : EncodableGraph nodes edges) :
    buildFrameGraphPayload frameIndex nodes edges =
      .ok (some (frameGraphBytes frameIndex nodes edges)) := by
  have hmax32 : u32Max = 2 ^ 32 - 1 := rfl
  obtain ⟨hnodeCount, hedgeCount, hnodes, hedges, htable⟩ := h
  have hedgesAll : edges.all (validateEdgeInput nodes.length) = true := List.all_eq_true.2 hedges
  have hheader := PodCodec.length_encode frameGraphHeaderCodec
    (frameGraphHeader frameIndex nodes edges)
  rw [size_frameGraphHeader] at hheader
  have hwithNodes := foldlM_appendPod frameGraphNodeCodec (encodedNodesAt 0 nodes)
    (frameGraphHeaderCodec.encode (frameGraphHeader frameIndex nodes edges)) (by
      rw [hheader, length_encodedNodesAt, size_frameGraphNode]
      omega)
  have hwithEdges := foldlM_appendPod frameGraphEdgeCodec (edges.map encodeEdge)
    (frameGraphHeaderCodec.encode (frameGraphHeader frameIndex nodes edges) ++
      (encodedNodesAt 0 nodes).flatMap frameGraphNodeCodec.encode) (by
      rw [List.length_append, length_flatMap_encode, hheader, length_encodedNodesAt,
        size_frameGraphNode, size_frameGraphEdge, List.length_map]
      omega)
  have hlength := length_frameGraphBytes frameIndex nodes edges
  rw [buildFrameGraphPayload, if_neg (by omega), reserveStringTable_eq 0 nodes (Nat.zero_le _),
    Nat.zero_add, if_pos ⟨hnodes, htable⟩, ok_bind]
  dsimp only
  rw [if_neg (by rw [hedgesAll]; exact Bool.noConfusion),
    framePayloadBytes_eq hnodeCount hedgeCount htable, ok_bind]
  dsimp only
  rw [encodeNodes_eq [] nodes hnodes (by rw [List.length_nil]; omega), ok_bind, List.nil_append,
    List.length_nil]
  dsimp only
  rw [appendPod_eq (by decide), ok_bind, List.nil_append]
  show ((encodedNodesAt 0 nodes).foldlM (appendPod frameGraphNodeCodec)
    (frameGraphHeaderCodec.encode (frameGraphHeader frameIndex nodes edges)) >>= _) = _
  rw [hwithNodes, ok_bind, hwithEdges, ok_bind, ← hlength, frameGraphBytes]
  exact if_pos rfl

/-- Building has no fault: it refuses a graph or gives its bytes. -/
lemma buildFrameGraphPayload_eq (frameIndex : UInt64) (nodes : List FrameGraphNodeDesc)
    (edges : List FrameGraphEdgeDesc) :
    (EncodableGraph nodes edges ∧ buildFrameGraphPayload frameIndex nodes edges =
        .ok (some (frameGraphBytes frameIndex nodes edges))) ∨
      (¬EncodableGraph nodes edges ∧ buildFrameGraphPayload frameIndex nodes edges = .ok none) := by
  by_cases h : EncodableGraph nodes edges
  · exact .inl ⟨h, buildFrameGraphPayload_of_encodable frameIndex h⟩
  refine .inr ⟨h, ?_⟩
  rw [buildFrameGraphPayload]
  by_cases hcounts : nodes.length > u32Max ∨ edges.length > u32Max
  · rw [if_pos hcounts]
  rw [if_neg hcounts, reserveStringTable_eq 0 nodes (Nat.zero_le _), Nat.zero_add, ok_bind]
  by_cases hlabels : (∀ node ∈ nodes, validateNodeInput node = true) ∧
      (labelTable nodes).length ≤ u32Max
  · rw [if_pos hlabels]
    have hrefused : edges.all (validateEdgeInput nodes.length) = false := by
      by_contra haccepted
      rw [Bool.not_eq_false, List.all_eq_true] at haccepted
      exact h ⟨by omega, by omega, hlabels.1, haccepted, hlabels.2⟩
    dsimp only
    rw [if_pos hrefused]
    rfl
  · rw [if_neg hlabels]
    rfl

end NwbLot.Telemetry
