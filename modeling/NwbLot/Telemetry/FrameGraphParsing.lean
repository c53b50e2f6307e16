import NwbLot.Telemetry.FrameGraphBuilder

/-!
# Parsing the payload of a frame graph

Whatever the bytes are, parsing has no fault, and what it accepts lies inside the tables that the
header declares.  On the bytes that building gives it finds the graph again.

`FrameGraphPayload.Inside` places the labels in the string table and the ends of every edge among
the nodes; it holds of whatever is accepted.
-/

namespace NwbLot.Telemetry

open Guarded

/-! ## Any bytes -/

section Parsing

variable (encoded : ByteView)

lemma scanText_satisfies {absoluteOffset : ℕ} (remaining : ℕ) {textLength : ℕ}
    (h : absoluteOffset + textLength + remaining ≤ encoded.size) :
    Satisfies (scanText encoded absoluteOffset remaining textLength) fun scanned =>
      scanned ≤ textLength + remaining := by
  induction remaining generalizing textLength with
  | zero => exact satisfies_ok (Nat.le_refl _)
  | succ remaining ih =>
    rw [scanText]
    refine Satisfies.bind ⟨_, ByteView.byteAt_eq (by omega), rfl⟩ fun byte _ => ?_
    refine satisfies_ite (fun _ => ?_) fun _ => satisfies_ok (Nat.le_add_right _ _)
    exact (ih (by omega)).mono fun scanned hscanned => by omega

/-- A text lies inside a range of the buffer, and before the end of the range. -/
structure InTable (stringTableOffset stringTableBytes : ℕ) (text : CopiedRange) : Prop where
  inside : text.Inside encoded
  begins : stringTableOffset ≤ text.offset
  ends : text.offset + text.bytes.length < stringTableOffset + stringTableBytes

lemma readStringTableTextView_satisfies (stringTableOffset stringTableByteCount : ℕ)
    (textOffset : UInt32) :
    Satisfies (readStringTableTextView encoded stringTableOffset stringTableByteCount textOffset)
      fun read => ∀ text, read = some text →
        InTable encoded stringTableOffset stringTableByteCount text := by
  have hrefused : Satisfies (.ok none : Guarded (Option CopiedRange))
      fun read => ∀ text, read = some text →
        InTable encoded stringTableOffset stringTableByteCount text :=
    satisfies_ok fun _ hread => nomatch hread
  unfold readStringTableTextView
  refine satisfies_ite (fun _ => hrefused) fun hoffset => ?_
  rw [not_or, not_le] at hoffset
  refine Satisfies.bind ⟨_, ByteView.canReadBytes_eq _ _ _, rfl⟩ fun inside hinside => ?_
  subst hinside
  refine satisfies_ite (fun hinside => ?_) fun _ => hrefused
  have htable : stringTableOffset + stringTableByteCount ≤ encoded.size :=
    of_decide_eq_true hinside
  have hword := encoded.size_lt
  refine Satisfies.bind ⟨_, add_eq (by omega), rfl⟩ fun absoluteOffset habsolute => ?_
  refine Satisfies.bind ⟨_, sub_eq hoffset.2.le, rfl⟩ fun remainingBytes hremaining => ?_
  refine Satisfies.bind (scanText_satisfies encoded remainingBytes (by omega))
    fun textLength hlength => ?_
  refine satisfies_ite (fun _ => hrefused) fun hterminated => ?_
  refine Satisfies.bind (ByteView.copyRange_satisfies (by omega)) fun text htext =>
    satisfies_ok fun other hread => ?_
  rw [← Option.some.inj hread]
  obtain ⟨hinside, hbegin, hbytes⟩ := htext
  exact ⟨hinside, by omega, by omega⟩

/-- The induction over the nodes that are declared. -/
lemma readNodes_satisfies (stringTableOffset stringTableBytes count cursor : ℕ) :
    Satisfies (readNodes encoded stringTableOffset stringTableBytes count cursor) fun read =>
      ∀ nodes behind, read = some (nodes, behind) → nodes.length = count ∧
        behind = cursor + count * 72 ∧
        ∀ node ∈ nodes, InTable encoded stringTableOffset stringTableBytes node.label := by
  induction count generalizing cursor with
  | zero =>
    refine satisfies_ok fun nodes behind hread => ?_
    obtain ⟨rfl, rfl⟩ := Prod.mk.inj (Option.some.inj hread)
    exact ⟨rfl, by omega, fun node hnode => absurd hnode List.not_mem_nil⟩
  | succ count ih =>
    rw [readNodes]
    refine Satisfies.bind (ByteView.readPod_satisfies _ encoded cursor) fun read hread => ?_
    rcases read with _ | ⟨encodedNode, after⟩
    · exact satisfies_ok fun _ _ hread => nomatch hread
    obtain ⟨hafter, -⟩ := hread _ _ rfl
    rw [size_frameGraphNode] at hafter
    refine satisfies_ite (fun _ => satisfies_ok fun _ _ hread => nomatch hread) fun _ => ?_
    refine Satisfies.bind (readStringTableTextView_satisfies encoded _ _ _) fun read hlabel => ?_
    rcases read with _ | label
    · exact satisfies_ok fun _ _ hread => nomatch hread
    refine Satisfies.bind (ih after) fun rest hrest => ?_
    rcases rest with _ | ⟨nodes, last⟩
    · exact satisfies_ok fun _ _ hread => nomatch hread
    refine satisfies_ok fun all behind hall => ?_
    obtain ⟨rfl, rfl⟩ := Prod.mk.inj (Option.some.inj hall)
    obtain ⟨hlength, hlast, hlabels⟩ := hrest _ _ rfl
    refine ⟨by rw [List.length_cons, hlength], by omega, fun node hnode => ?_⟩
    rcases List.mem_cons.1 hnode with rfl | hnode
    · exact hlabel _ rfl
    · exact hlabels node hnode

/-- The induction over the edges that are declared. -/
lemma readEdges_satisfies (nodeCount : UInt32) (count cursor : ℕ) :
    Satisfies (readEdges encoded nodeCount count cursor) fun read =>
      ∀ edges behind, read = some (edges, behind) → edges.length = count ∧
        ∀ edge ∈ edges, edge.fromNodeIndex < nodeCount ∧ edge.toNodeIndex < nodeCount := by
  induction count generalizing cursor with
  | zero =>
    refine satisfies_ok fun edges behind hread => ?_
    obtain ⟨rfl, rfl⟩ := Prod.mk.inj (Option.some.inj hread)
    exact ⟨rfl, fun edge hedge => absurd hedge List.not_mem_nil⟩
  | succ count ih =>
    rw [readEdges]
    refine Satisfies.bind (ByteView.readPod_satisfies _ encoded cursor) fun read _ => ?_
    rcases read with _ | ⟨encodedEdge, after⟩
    · exact satisfies_ok fun _ _ hread => nomatch hread
    refine satisfies_ite (fun _ => satisfies_ok fun _ _ hread => nomatch hread) fun hvalid => ?_
    refine Satisfies.bind (ih after) fun rest hrest => ?_
    rcases rest with _ | ⟨edges, last⟩
    · exact satisfies_ok fun _ _ hread => nomatch hread
    refine satisfies_ok fun all behind hall => ?_
    obtain ⟨rfl, rfl⟩ := Prod.mk.inj (Option.some.inj hall)
    obtain ⟨hlength, hedges⟩ := hrest _ _ rfl
    refine ⟨by rw [List.length_cons, hlength], fun edge hedge => ?_⟩
    rcases List.mem_cons.1 hedge with rfl | hedge
    · simp only [validateEncodedEdge, Bool.not_eq_false, Bool.and_eq_true, decide_eq_true_eq]
        at hvalid
      exact ⟨hvalid.1.2, hvalid.2⟩
    · exact hedges edge hedge

/-- The sums of the declared sizes fit a word, as the counts have 32 bits. -/
lemma frameGraphOffsets_eq (header : EncodedFrameGraphPayloadHeader) :
    frameGraphOffsets header =
      .ok (some (28 + header.nodeCount.toNat * 72 + header.edgeCount.toNat * 12,
        28 + header.nodeCount.toNat * 72 + header.edgeCount.toNat * 12 +
          header.stringTableBytes.toNat)) := by
  have hmax : usizeMax = 2 ^ 64 - 1 := rfl
  have hnodes := header.nodeCount.toNat_lt
  have hedges := header.edgeCount.toNat_lt
  have htable := header.stringTableBytes.toNat_lt
  rw [frameGraphOffsets, size_frameGraphHeader, size_frameGraphNode, size_frameGraphEdge,
    addBinaryRepeatedReserveBytes_eq (by omega), ok_bind]
  dsimp only
  rw [addBinaryRepeatedReserveBytes_eq (by omega), ok_bind]
  dsimp only
  rw [addBinaryReserveBytes_eq (by omega)]
  rfl

/-- What a header declares is what was accepted, and it fills the payload. -/
structure FrameGraphPayload.Inside (payload : FrameGraphPayload)
    (header : EncodedFrameGraphPayloadHeader) : Prop where
  headerBytes : encoded.bytes.take 28 = frameGraphHeaderCodec.encode header
  nodeCount : payload.nodes.length = header.nodeCount.toNat
  edgeCount : payload.edges.length = header.edgeCount.toNat
  size : 28 + payload.nodes.length * 72 + payload.edges.length * 12 +
    header.stringTableBytes.toNat = encoded.size
  endpoints : ∀ edge ∈ payload.edges, edge.fromNodeIndex.toNat < payload.nodes.length ∧
    edge.toNodeIndex.toNat < payload.nodes.length
  labels : ∀ node ∈ payload.nodes,
    InTable encoded (28 + payload.nodes.length * 72 + payload.edges.length * 12)
      header.stringTableBytes.toNat node.label

lemma parseFrameGraphPayload_inside :
    Satisfies (parseFrameGraphPayload encoded) fun parsed =>
      ∀ payload, parsed = some payload → ∃ header, payload.Inside encoded header := by
  have hrefused : Satisfies (.ok none : Guarded (Option FrameGraphPayload)) fun parsed =>
      ∀ payload, parsed = some payload → ∃ header, payload.Inside encoded header :=
    satisfies_ok fun _ hparsed => nomatch hparsed
  unfold parseFrameGraphPayload
  refine satisfies_ite (fun _ => hrefused) fun _ => ?_
  refine Satisfies.bind ⟨_, ByteView.readPod_eq _ encoded 0, rfl⟩ fun read hread => ?_
  rcases read with _ | ⟨header, cursor⟩
  · exact hrefused
  obtain ⟨-, -, hheader⟩ := PodCodec.eq_of_readAt hread
  refine satisfies_ite (fun _ => hrefused) fun _ => ?_
  refine Satisfies.bind ⟨_, frameGraphOffsets_eq header, rfl⟩ fun offsets hoffsets => ?_
  subst hoffsets
  refine satisfies_ite (fun _ => hrefused) fun hsize => ?_
  refine Satisfies.bind (readNodes_satisfies encoded _ _ _ cursor) fun read hnodes => ?_
  rcases read with _ | ⟨nodes, cursor⟩
  · exact hrefused
  obtain ⟨hnodeCount, -, hlabels⟩ := hnodes _ _ rfl
  refine Satisfies.bind (readEdges_satisfies encoded _ _ cursor) fun read hedges => ?_
  rcases read with _ | ⟨edges, cursor⟩
  · exact hrefused
  obtain ⟨hedgeCount, hendpoints⟩ := hedges _ _ rfl
  refine satisfies_ite (fun _ => satisfies_ok fun payload hpayload => ?_) fun _ => hrefused
  obtain rfl := Option.some.inj hpayload
  refine ⟨header, hheader, hnodeCount, hedgeCount, ?_, fun edge hedge => ?_, fun node hnode => ?_⟩
  · show 28 + nodes.length * 72 + edges.length * 12 + _ = _
    rw [hnodeCount, hedgeCount]
    exact not_not.1 hsize
  · show _ < nodes.length ∧ _ < nodes.length
    rw [hnodeCount]
    exact hendpoints edge hedge
  · show InTable encoded (28 + nodes.length * 72 + edges.length * 12) _ _
    rw [hnodeCount, hedgeCount]
    exact hlabels node hnode

end Parsing

/-! ## The bytes that building gives -/

section RoundTrip

variable {encoded : ByteView}

/-- What a parsed node says, without the place of its label. -/
def FrameGraphNodePayload.desc (node : FrameGraphNodePayload) : FrameGraphNodeDesc where
  name := node.name
  label := node.label.bytes
  kind := node.kind
  flags := node.flags

/-- The edge as its caller described it. -/
def FrameGraphEdgePayload.desc (edge : FrameGraphEdgePayload) : FrameGraphEdgeDesc where
  fromNodeIndex := edge.fromNodeIndex
  toNodeIndex := edge.toNodeIndex
  kind := edge.kind
  flags := edge.flags

/-- The nodes with the places of their labels. -/
def parsedNodesAt (stringTableOffset : ℕ) : ℕ → List FrameGraphNodeDesc → List FrameGraphNodePayload
  | _, [] => []
  | offset, node :: nodes =>
    { name := node.name, label := ⟨stringTableOffset + offset, node.label⟩, kind := node.kind
      flags := node.flags } ::
      parsedNodesAt stringTableOffset (offset + (node.label.length + 1)) nodes

/-- The edge as it is parsed. -/
def parsedEdge (edge : FrameGraphEdgeDesc) : FrameGraphEdgePayload where
  fromNodeIndex := edge.fromNodeIndex
  toNodeIndex := edge.toNodeIndex
  kind := edge.kind
  flags := edge.flags

lemma map_desc_parsedNodesAt (stringTableOffset offset : ℕ) (nodes : List FrameGraphNodeDesc) :
    (parsedNodesAt stringTableOffset offset nodes).map FrameGraphNodePayload.desc = nodes := by
  induction nodes generalizing offset with
  | nil => rfl
  | cons node nodes ih =>
    rw [parsedNodesAt, List.map_cons, ih]
    rfl

lemma map_desc_parsedEdge (edges : List FrameGraphEdgeDesc) :
    (edges.map parsedEdge).map FrameGraphEdgePayload.desc = edges := by
  rw [List.map_map]
  exact List.map_id edges

/-- The scan stops at the null byte behind the text. -/
lemma scanText_eq {before text after : List UInt8} {absoluteOffset textLength remaining : ℕ}
    (hbytes : encoded.bytes = before ++ (text ++ 0 :: after)) (hnull : 0 ∉ text)
    (hbefore : before.length = absoluteOffset + textLength) (hroom : text.length < remaining) :
    scanText encoded absoluteOffset remaining textLength = .ok (textLength + text.length) := by
  induction text generalizing before textLength remaining with
  | nil =>
    obtain ⟨remaining, rfl⟩ := Nat.exists_eq_succ_of_ne_zero (Nat.ne_of_gt hroom)
    have hbyte : encoded.byteAt (absoluteOffset + textLength) = .ok 0 := by
      rw [ByteView.byteAt, hbytes, ← hbefore, List.nil_append, List.getElem?_append_right le_rfl,
        Nat.sub_self]
      rfl
    rw [scanText, hbyte, ok_bind, if_neg (not_not.2 rfl)]
    rfl
  | cons ch text ih =>
    obtain ⟨remaining, rfl⟩ := Nat.exists_eq_succ_of_ne_zero (Nat.ne_of_gt (by
      exact (Nat.zero_lt_succ _).trans hroom))
    obtain ⟨hch, hnull⟩ := not_or.1 (List.mem_cons.not.1 hnull)
    have hbyte : encoded.byteAt (absoluteOffset + textLength) = .ok ch := by
      rw [ByteView.byteAt, hbytes, ← hbefore, List.getElem?_append_right le_rfl, Nat.sub_self]
      rfl
    have hbehind : encoded.bytes = (before ++ [ch]) ++ (text ++ 0 :: after) := by
      rw [hbytes, List.append_assoc]
      rfl
    have hlength : (before ++ [ch]).length = absoluteOffset + (textLength + 1) := by
      rw [List.length_append, List.length_singleton]
      omega
    have hrest := ih hbehind hnull hlength (Nat.lt_of_succ_lt_succ hroom)
    rw [scanText, hbyte, ok_bind, if_pos (Ne.symm hch), hrest, List.length_cons]
    congr 1
    omega

/-- A label is found at its offset. -/
lemma readStringTableTextView_eq {front before label after : List UInt8} {textOffset : UInt32}
    (hbytes : encoded.bytes = front ++ (before ++ (label ++ 0 :: after)))
    (hoffset : textOffset.toNat = before.length) (hlabel : label ≠ []) (hnull : 0 ∉ label)
    (hfits : before.length + (label.length + 1 + after.length) ≤ u32Max) :
    readStringTableTextView encoded front.length
        (before.length + (label.length + 1 + after.length)) textOffset =
      .ok (some ⟨front.length + before.length, label⟩) := by
  have hmax32 : u32Max = 2 ^ 32 - 1 := rfl
  have hword := encoded.size_lt
  have hlength : 0 < label.length := List.length_pos_of_ne_nil hlabel
  have hsize : encoded.size =
      front.length + (before.length + (label.length + 1 + after.length)) := by
    have hcount := congrArg List.length hbytes
    simp only [List.length_append, List.length_cons] at hcount
    show encoded.bytes.length = _
    omega
  have hne : textOffset ≠ 0xFFFFFFFF := by
    rintro rfl
    have hlast : (0xFFFFFFFF : UInt32).toNat = 2 ^ 32 - 1 := rfl
    omega
  have hplace : encoded.bytes = (front ++ before) ++ (label ++ 0 :: after) := by
    rw [hbytes, List.append_assoc]
  have hbegin : (front ++ before).length = front.length + before.length + 0 := List.length_append
  have hscan : scanText encoded (front.length + before.length) (label.length + 1 + after.length) 0 =
      .ok (0 + label.length) := scanText_eq hplace hnull hbegin (by omega)
  have htext : (encoded.bytes.drop (front.length + before.length)).take label.length = label := by
    rw [hbytes, ← List.append_assoc, ← List.length_append, List.drop_left, List.take_left]
  rw [readStringTableTextView, if_neg (by rw [not_or, hoffset]; exact ⟨hne, by omega⟩),
    ByteView.canReadBytes_eq, ok_bind, hsize, decide_eq_true le_rfl, if_pos rfl, hoffset,
    add_eq (by omega), ok_bind, sub_eq (by omega), ok_bind, Nat.add_sub_cancel_left, hscan,
    ok_bind, Nat.zero_add, if_neg (by omega), ByteView.copyRange,
    ByteView.slice_eq (by omega), htext]
  rfl

/-- The nodes are found, one behind the other, with their labels. -/
lemma readNodes_eq {front middle before : List UInt8} {nodes : List FrameGraphNodeDesc}
    (hbytes : encoded.bytes = front ++ ((encodedNodesAt before.length nodes).flatMap
      frameGraphNodeCodec.encode ++ (middle ++ (before ++ labelTable nodes))))
    (hvalid : ∀ node ∈ nodes, validateNodeInput node = true)
    (hfits : before.length + (labelTable nodes).length ≤ u32Max) :
    readNodes encoded (front.length + nodes.length * 72 + middle.length)
        (before.length + (labelTable nodes).length) nodes.length front.length =
      .ok (some (parsedNodesAt (front.length + nodes.length * 72 + middle.length) before.length
        nodes, front.length + nodes.length * 72)) := by
  induction nodes generalizing front before with
  | nil => rfl
  | cons node nodes ih =>
    have hmax32 : u32Max = 2 ^ 32 - 1 := rfl
    obtain ⟨hnode, hnodes⟩ := List.forall_mem_cons.1 hvalid
    obtain ⟨hlabel, hnull, -⟩ := text_of_validateNodeInput hnode
    rw [encodedNodesAt, List.flatMap_cons, List.append_assoc] at hbytes
    set encodedNode : EncodedFrameGraphNode :=
      { nameHash := node.name, labelOffset := UInt32.ofNat before.length, kind := node.kind
        flags := node.flags, reserved := 0 } with hencodedNode
    have hnodeValid : validateEncodedNode encodedNode = true := by
      simp only [validateNodeInput, Bool.and_eq_true] at hnode
      simp only [validateEncodedNode, hencodedNode, beq_self_eq_true, Bool.true_and,
        Bool.and_eq_true]
      exact hnode.1
    have htable : before.length + (labelTable (node :: nodes)).length =
        before.length + (node.label.length + 1 + (labelTable nodes).length) := by
      rw [length_labelTable_cons]
    have hread : ByteView.readPod frameGraphNodeCodec encoded front.length =
        .ok (some (encodedNode, front.length + 72)) := by
      rw [ByteView.readPod_eq, hbytes, PodCodec.readAt_append, size_frameGraphNode]
    have hencodedLength : (frameGraphNodeCodec.encode encodedNode).length = 72 :=
      PodCodec.length_encode _ _
    have hnodesLength : ((encodedNodesAt (before.length + (node.label.length + 1)) nodes).flatMap
        frameGraphNodeCodec.encode).length = nodes.length * 72 := by
      rw [length_flatMap_encode, length_encodedNodesAt, size_frameGraphNode]
    have hlabelBytes : encoded.bytes = (front ++ (frameGraphNodeCodec.encode encodedNode ++
        ((encodedNodesAt (before.length + (node.label.length + 1)) nodes).flatMap
          frameGraphNodeCodec.encode ++ middle))) ++
        (before ++ (node.label ++ 0 :: labelTable nodes)) := by
      rw [hbytes, labelTable_cons]
      simp only [List.append_assoc, List.singleton_append]
    have hlabelOffset : encodedNode.labelOffset.toNat = before.length := by
      rw [hencodedNode, UInt32.toNat_ofNat']
      exact Nat.mod_eq_of_lt (by omega)
    have hlabelRead := readStringTableTextView_eq hlabelBytes hlabelOffset hlabel hnull (by omega)
    rw [List.length_append, List.length_append, List.length_append, hencodedLength,
      hnodesLength] at hlabelRead
    have hplace : front.length + (node :: nodes).length * 72 + middle.length =
        front.length + (72 + (nodes.length * 72 + middle.length)) := by
      rw [List.length_cons]
      omega
    have hbehind : (before ++ node.label ++ [0]).length =
        before.length + (node.label.length + 1) := by
      rw [List.length_append, List.length_append, List.length_singleton, Nat.add_assoc]
    have hrestBytes : encoded.bytes = (front ++ frameGraphNodeCodec.encode encodedNode) ++
        ((encodedNodesAt (before ++ node.label ++ [0]).length nodes).flatMap
          frameGraphNodeCodec.encode ++
          (middle ++ (before ++ node.label ++ [0] ++ labelTable nodes))) := by
      rw [hbytes, labelTable_cons, hbehind]
      simp only [List.append_assoc]
    have hrest := ih hrestBytes hnodes (by omega)
    have hfront : (front ++ frameGraphNodeCodec.encode encodedNode).length = front.length + 72 := by
      rw [List.length_append, hencodedLength]
    have hsame : front.length + 72 + nodes.length * 72 + middle.length =
        front.length + (72 + (nodes.length * 72 + middle.length)) := by omega
    rw [hbehind, hfront, hsame, Nat.add_assoc before.length] at hrest
    rw [hplace, htable, List.length_cons, readNodes, hread, ok_bind]
    dsimp only
    rw [if_neg (by rw [hnodeValid]; exact Bool.noConfusion), hlabelRead, ok_bind]
    dsimp only
    rw [hrest, ok_bind]
    have hend : front.length + 72 + nodes.length * 72 = front.length + (nodes.length + 1) * 72 := by
      omega
    rw [hend]
    rfl

/-- The edges are found, one behind the other. -/
lemma readEdges_eq {front after : List UInt8} {nodeCount : UInt32}
    {edges : List FrameGraphEdgeDesc}
    (hbytes : encoded.bytes = front ++
      ((edges.map encodeEdge).flatMap frameGraphEdgeCodec.encode ++ after))
    (hvalid : ∀ edge ∈ edges, validateEdgeInput nodeCount.toNat edge = true) :
    readEdges encoded nodeCount edges.length front.length =
      .ok (some (edges.map parsedEdge, front.length + edges.length * 12)) := by
  induction edges generalizing front with
  | nil => rfl
  | cons edge edges ih =>
    obtain ⟨hedge, hedges⟩ := List.forall_mem_cons.1 hvalid
    rw [List.map_cons, List.flatMap_cons, List.append_assoc] at hbytes
    have hedgeValid : validateEncodedEdge (encodeEdge edge) nodeCount = true := by
      simp only [validateEdgeInput, Bool.and_eq_true, decide_eq_true_eq] at hedge
      simp only [validateEncodedEdge, encodeEdge, beq_self_eq_true, Bool.true_and,
        Bool.and_eq_true, decide_eq_true_eq, UInt32.lt_iff_toNat_lt]
      exact hedge
    have hread : ByteView.readPod frameGraphEdgeCodec encoded front.length =
        .ok (some (encodeEdge edge, front.length + 12)) := by
      rw [ByteView.readPod_eq, hbytes, PodCodec.readAt_append, size_frameGraphEdge]
    have hrestBytes : encoded.bytes = (front ++ frameGraphEdgeCodec.encode (encodeEdge edge)) ++
        ((edges.map encodeEdge).flatMap frameGraphEdgeCodec.encode ++ after) := by
      rw [hbytes, List.append_assoc]
    have hrest := ih hrestBytes hedges
    have hfront : (front ++ frameGraphEdgeCodec.encode (encodeEdge edge)).length =
        front.length + 12 := by
      rw [List.length_append, PodCodec.length_encode, size_frameGraphEdge]
    have hend : front.length + 12 + edges.length * 12 = front.length + (edges.length + 1) * 12 := by
      omega
    rw [hfront, hend] at hrest
    rw [List.length_cons, readEdges, hread, ok_bind]
    dsimp only
    rw [if_neg (by rw [hedgeValid]; exact Bool.noConfusion), hrest, ok_bind]
    rfl

/-- Parsing what was built. -/
lemma parseFrameGraphPayload_frameGraphBytes {frameIndex : UInt64}
    {nodes : List FrameGraphNodeDesc} {edges : List FrameGraphEdgeDesc}
    (h : EncodableGraph nodes edges)
    (hbytes : encoded.bytes = frameGraphBytes frameIndex nodes edges) :
    parseFrameGraphPayload encoded =
      .ok (some
        { frameIndex
          nodes := parsedNodesAt (28 + nodes.length * 72 + edges.length * 12) 0 nodes
          edges := edges.map parsedEdge }) := by
  have hmax32 : u32Max = 2 ^ 32 - 1 := rfl
  obtain ⟨hnodeCount, hedgeCount, hnodes, hedges, htable⟩ := h
  have hsize : encoded.size =
      28 + nodes.length * 72 + edges.length * 12 + (labelTable nodes).length := by
    rw [ByteView.size, hbytes, length_frameGraphBytes]
  set header := frameGraphHeader frameIndex nodes edges with hheader
  have hnodeWord : header.nodeCount.toNat = nodes.length :=
    (UInt32.toNat_ofNat' ..).trans (Nat.mod_eq_of_lt (by omega))
  have hedgeWord : header.edgeCount.toNat = edges.length :=
    (UInt32.toNat_ofNat' ..).trans (Nat.mod_eq_of_lt (by omega))
  have htableWord : header.stringTableBytes.toNat = (labelTable nodes).length :=
    (UInt32.toNat_ofNat' ..).trans (Nat.mod_eq_of_lt (by omega))
  have hlayout : encoded.bytes = frameGraphHeaderCodec.encode header ++
      ((encodedNodesAt 0 nodes).flatMap frameGraphNodeCodec.encode ++
        ((edges.map encodeEdge).flatMap frameGraphEdgeCodec.encode ++ labelTable nodes)) := by
    rw [hbytes, frameGraphBytes, List.append_assoc, List.append_assoc]
  have hheaderLength : (frameGraphHeaderCodec.encode header).length = 28 :=
    PodCodec.length_encode _ _
  have hread : ByteView.readPod frameGraphHeaderCodec encoded 0 = .ok (some (header, 28)) := by
    have hat := PodCodec.readAt_append frameGraphHeaderCodec []
      ((encodedNodesAt 0 nodes).flatMap frameGraphNodeCodec.encode ++
        ((edges.map encodeEdge).flatMap frameGraphEdgeCodec.encode ++ labelTable nodes)) header
    rw [List.nil_append, ← hlayout] at hat
    rw [ByteView.readPod_eq]
    exact congrArg Except.ok hat
  have hedgesLength : ((edges.map encodeEdge).flatMap frameGraphEdgeCodec.encode).length =
      edges.length * 12 := by
    rw [length_flatMap_encode, List.length_map, size_frameGraphEdge]
  have hnodesBytes : encoded.bytes = frameGraphHeaderCodec.encode header ++
      ((encodedNodesAt ([] : List UInt8).length nodes).flatMap frameGraphNodeCodec.encode ++
        ((edges.map encodeEdge).flatMap frameGraphEdgeCodec.encode ++ ([] ++ labelTable nodes))) :=
    hlayout
  have hnodesRead := readNodes_eq hnodesBytes hnodes
    (by rw [List.length_nil, Nat.zero_add]; exact htable)
  rw [hheaderLength, hedgesLength, List.length_nil, Nat.zero_add] at hnodesRead
  have hedgesBytes : encoded.bytes = (frameGraphHeaderCodec.encode header ++
      (encodedNodesAt 0 nodes).flatMap frameGraphNodeCodec.encode) ++
        ((edges.map encodeEdge).flatMap frameGraphEdgeCodec.encode ++ labelTable nodes) := by
    rw [hlayout, List.append_assoc]
  have hvalidEdges : ∀ edge ∈ edges, validateEdgeInput header.nodeCount.toNat edge = true := by
    rw [hnodeWord]
    exact hedges
  have hedgesRead := readEdges_eq hedgesBytes hvalidEdges
  rw [List.length_append, hheaderLength, length_flatMap_encode, length_encodedNodesAt,
    size_frameGraphNode] at hedgesRead
  rw [parseFrameGraphPayload, if_neg (by rw [hsize, size_frameGraphHeader]; omega), hread, ok_bind]
  dsimp only
  rw [if_neg (show ¬validateFrameGraphHeader header = false from Bool.noConfusion),
    frameGraphOffsets_eq, ok_bind, hnodeWord, hedgeWord, htableWord]
  dsimp only
  rw [if_neg (not_not.2 hsize.symm), hnodesRead, ok_bind]
  dsimp only
  rw [hedgesRead, ok_bind]
  exact if_pos rfl

end RoundTrip

/-! ## The contract -/

/-- Building has no fault, and parsing what it builds gives the nodes and the edges back in order.
Parsing any bytes has no fault either: no offset and no size wraps and nothing is read outside
them.  In what it accepts the edges end at nodes, and the labels lie inside the string table. -/
theorem frameGraphPayload_contract :
    (∀ (frameIndex : UInt64) (nodes : List FrameGraphNodeDesc) (edges : List FrameGraphEdgeDesc),
      Satisfies (buildFrameGraphPayload frameIndex nodes edges) fun built =>
        ∀ payload, built = some payload → payload.length < 2 ^ 64 ∧
          ∀ encoded : ByteView, encoded.bytes = payload →
            ∃ parsed, parseFrameGraphPayload encoded = .ok (some parsed) ∧
              parsed.frameIndex = frameIndex ∧
              parsed.nodes.map FrameGraphNodePayload.desc = nodes ∧
              parsed.edges.map FrameGraphEdgePayload.desc = edges) ∧
    ∀ encoded : ByteView,
      Satisfies (parseFrameGraphPayload encoded) fun parsed =>
        ∀ payload, parsed = some payload → ∃ header, payload.Inside encoded header := by
  refine ⟨fun frameIndex nodes edges => ?_, parseFrameGraphPayload_inside⟩
  rcases buildFrameGraphPayload_eq frameIndex nodes edges with ⟨h, hbuild⟩ | ⟨-, hbuild⟩
  · refine ⟨_, hbuild, fun payload hpayload => ?_⟩
    obtain rfl := Option.some.inj hpayload
    refine ⟨?_, fun encoded hbytes => ?_⟩
    · have hmax32 : u32Max = 2 ^ 32 - 1 := rfl
      have hnodes := h.nodeCount
      have hedges := h.edgeCount
      have htable := h.stringTable
      rw [length_frameGraphBytes]
      omega
    · exact ⟨_, parseFrameGraphPayload_frameGraphBytes h hbytes, rfl,
        map_desc_parsedNodesAt _ _ _, map_desc_parsedEdge _⟩
  · exact ⟨_, hbuild, fun _ hpayload => nomatch hpayload⟩

/-- Two nodes and an edge, whose labels lie behind the two tables. -/
theorem frameGraphPayload_contract_twoNodes :
    ∃ nodes edges payload, buildFrameGraphPayload 7 nodes edges = .ok (some payload) ∧
      payload.length = 189 ∧ nodes.map FrameGraphNodeDesc.label = [[97], [98, 99]] ∧
      ∃ encoded : ByteView, encoded.bytes = payload ∧
        ∃ parsed, parseFrameGraphPayload encoded = .ok (some parsed) ∧
          parsed.nodes.map FrameGraphNodePayload.desc = nodes ∧
          parsed.edges.map FrameGraphEdgePayload.desc = edges := by
  let nodes : List FrameGraphNodeDesc := [⟨fun _ => 1, [97], 1, 0⟩, ⟨fun _ => 2, [98, 99], 2, 3⟩]
  let edges : List FrameGraphEdgeDesc := [⟨0, 1, 2, 0⟩]
  have hbuild : buildFrameGraphPayload 7 nodes edges =
      .ok (some (frameGraphBytes 7 nodes edges)) := by decide +kernel
  have hsize : (frameGraphBytes 7 nodes edges).length = 189 := by decide +kernel
  obtain ⟨built, hbuilt, hparsed⟩ := frameGraphPayload_contract.1 7 nodes edges
  obtain rfl := Except.ok.inj (hbuild.symm.trans hbuilt)
  obtain ⟨hbound, hparsed⟩ := hparsed _ rfl
  obtain ⟨parsed, hparse, -, hnodes, hedges⟩ := hparsed ⟨_, hbound⟩ rfl
  exact ⟨nodes, edges, _, hbuild, hsize, rfl, ⟨_, hbound⟩, rfl, parsed, hparse, hnodes, hedges⟩

end NwbLot.Telemetry
