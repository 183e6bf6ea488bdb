import RemixBridge.Calls.Message

/-!
# Calls — DeviceCall

The device's own commands: what `Direct3DDevice9Ex_LSS` pushes (`message`), what the server's
switch pulls (`process`), and which calls come over (`delivers_iff`).  An object is named by its
id.
-/

namespace RemixBridge

open DataRing

/-- The functions that `SetShaderConst` is used for. -/
inductive ShaderConst where
  | SetVertexShaderConstantF | SetVertexShaderConstantI | SetVertexShaderConstantB
  | SetPixelShaderConstantF | SetPixelShaderConstantI | SetPixelShaderConstantB

/-- The bytes of one register. -/
def ShaderConst.registerSize : ShaderConst → Nat
  | .SetVertexShaderConstantB | .SetPixelShaderConstantB => 4
  | _                                                    => 4 * 4

def ShaderConst.command : ShaderConst → D3D9Command
  | .SetVertexShaderConstantF => .IDirect3DDevice9Ex_SetVertexShaderConstantF
  | .SetVertexShaderConstantI => .IDirect3DDevice9Ex_SetVertexShaderConstantI
  | .SetVertexShaderConstantB => .IDirect3DDevice9Ex_SetVertexShaderConstantB
  | .SetPixelShaderConstantF  => .IDirect3DDevice9Ex_SetPixelShaderConstantF
  | .SetPixelShaderConstantI  => .IDirect3DDevice9Ex_SetPixelShaderConstantI
  | .SetPixelShaderConstantB  => .IDirect3DDevice9Ex_SetPixelShaderConstantB

/-- The vertices, or indices, that `count` primitives take. -/
def primitiveIndices (type : Word) (count : Nat) : Nat :=
  match type.toNat with
  | 1     => count
  | 2     => count * 2
  | 3     => count + 1
  | 5 | 6 => count + 2
  | _     => count * 3

/-- `GetIndexCount`, of `uint32_t`s. -/
def GetIndexCount (type count : Word) : Word :=
  match type.toNat with
  | 1     => count
  | 2     => count * 2
  | 3     => count + 1
  | 5 | 6 => count + 2
  | _     => count * 3

theorem toNat_GetIndexCount (type count : Word) :
    (GetIndexCount type count).toNat = primitiveIndices type count.toNat % 2 ^ 32 := by
  unfold GetIndexCount primitiveIndices
  split <;> simp [BitVec.toNat_mul, BitVec.toNat_add, Nat.mod_eq_of_lt count.isLt]

/-- `IndexDataFormat == D3DFMT_INDEX16 ? 2 : 4`. -/
def indexStride (IndexDataFormat : Word) : Nat := if IndexDataFormat.toNat = 101 then 2 else 4

/-- The device's calls, with what each is called with. -/
inductive DeviceCall where
  | GetDisplayMode (iSwapChain : Word)
  | SetCursorProperties (XHotSpot YHotSpot pCursorBitmap : Word)
  | SetCursorPosition (X Y Flags : Word)
  | ShowCursor (bShow : Word)
  | GetSwapChain (iSwapChain : Word)
  | GetNumberOfSwapChains (kNumImplicitSwapChains : Word)
  | SetDialogBoxMode (bEnableDialogs : Word)
  | SetGammaRamp (iSwapChain Flags : Word) (pRamp : Obj (sizeof .D3DGAMMARAMP))
  | GetGammaRamp (iSwapChain : Word)
  | CreateTexture (Width Height Levels Usage Format Pool id : Word)
  | CreateVolumeTexture (Width Height Depth Levels Usage Format Pool id : Word)
  | CreateCubeTexture (EdgeLength Levels Usage Format Pool id : Word)
  | CreateVertexBuffer (Length Usage FVF Pool id : Word)
  | CreateIndexBuffer (Length Usage Format Pool id : Word)
  | CreateRenderTarget (Width Height Format MultiSample MultisampleQuality Lockable id : Word)
  | CreateDepthStencilSurface (Width Height Format MultiSample MultisampleQuality Discard id : Word)
  | UpdateSurface (pSourceSurface : Word) (pSourceRect : Obj (sizeof .RECT))
      (pDestinationSurface : Word) (pDestPoint : Obj (sizeof .POINT))
  | UpdateTexture (pSourceTexture pDestinationTexture : Word)
  | GetRenderTargetData (pRenderTarget pDestSurface : Word)
  | GetFrontBufferData (iSwapChain pDestSurface : Word)
  | StretchRect (pSourceSurface : Word) (pSourceRect : Obj (sizeof .RECT)) (pDestSurface : Word)
      (pDestRect : Obj (sizeof .RECT)) (Filter : Word)
  | ColorFill (pSurface : Word) (pRect : Obj (sizeof .RECT)) (color : Obj (sizeof .D3DCOLOR))
  | CreateOffscreenPlainSurface (Width Height Format Pool id : Word)
  | SetRenderTarget (RenderTargetIndex pRenderTarget : Word)
  | GetRenderTarget (RenderTargetIndex pRenderTarget : Word)
  | SetDepthStencilSurface (pNewZStencil : Word)
  | GetDepthStencilSurface (pZStencilSurface : Word)
  | Clear (Count : Word) (pRects : Obj (16 * Count.toNat)) (Flags : Word)
      (Color : Obj (sizeof .D3DCOLOR)) (Z : Obj (sizeof .float)) (Stencil : Word)
  | SetTransform (State : Word) (pMatrix : Obj (sizeof .D3DMATRIX))
  | SetViewport (pViewport : Obj (sizeof .D3DVIEWPORT9))
  | SetMaterial (pMaterial : Obj (sizeof .D3DMATERIAL9))
  | SetLight (Index : Word) (pLight : Obj (sizeof .D3DLIGHT9))
  | LightEnable (LightIndex bEnable : Word)
  | SetClipPlane (Index : Word) (pPlane : Obj (4 * sizeof .float))
  | StateBatch (records : List Byte)
  | SetRenderState (State Value : Word)
  | CreateStateBlock (Type' id : Word)
  | EndStateBlock (id : Word)
  | SetTexture (Stage pTexture : Word)
  | SetTextureStageState (Stage Type' Value : Word)
  | SetSamplerState (Sampler Type' Value : Word)
  | SetScissorRect (pRect : Obj (sizeof .RECT))
  | SetSoftwareVertexProcessing (bSoftware : Word)
  | SetNPatchMode (nSegments : Obj (sizeof .float))
  | DrawPrimitive (PrimitiveType StartVertex PrimitiveCount : Word)
  | DrawIndexedPrimitive
      (Type' BaseVertexIndex MinVertexIndex NumVertices startIndex primCount : Word)
  | ProcessVertices (SrcStartIndex DestIndex VertexCount pDestBuffer pVertexDecl Flags : Word)
  | CreateVertexDeclaration (numElem : Word) (pVertexElements : Obj (8 * numElem.toNat)) (id : Word)
  | SetVertexDeclaration (pDecl : Word)
  | SetFVF (FVF : Word)
  | CreateVertexShader (id dataSize : Word) (pFunction : Obj dataSize.toNat)
  | SetVertexShader (pShader : Word)
  | SetStreamSource (StreamNumber pStreamData OffsetInBytes Stride : Word)
  | SetStreamSourceFreq (StreamNumber Divider : Word)
  | SetIndices (pIndexData : Word)
  | CreatePixelShader (id dataSize : Word) (pFunction : Obj dataSize.toNat)
  | SetPixelShader (pShader : Word)
  | CreateQuery (Type' id : Word)
  | SetConvolutionMonoKernel (width height : Word) (rows : Obj (4 * width.toNat))
      (columns : Obj (4 * height.toNat))
  | ComposeRects (pSrc pDst pSrcRectDescs pDstRectDescs NumRects Operation Xoffset Yoffset : Word)
  | CheckDeviceState (hDestinationWindow : Word)
  | CreateRenderTargetEx
      (Width Height Format MultiSample MultisampleQuality Lockable Usage id : Word)
  | CreateOffscreenPlainSurfaceEx (Width Height Format Pool Usage id : Word)
  | CreateDepthStencilSurfaceEx
      (Width Height Format MultiSample MultisampleQuality Discard Usage id : Word)
  | GetDisplayModeEx (iSwapChain : Word)
  | LinkSwapchain (id : Word)
  | LinkBackBuffer (index id : Word)
  | LinkAutoDepthStencil (id : Word)
  | SetShaderConstant (func : ShaderConst) (StartRegister Count : Word)
      (pConstantData : Obj (Count.toNat * func.registerSize))
  | DrawPrimitiveUP (PrimitiveType PrimitiveCount VertexStreamZeroStride : Word)
      (pVertexStreamZeroData : Obj (primitiveIndices PrimitiveType PrimitiveCount.toNat *
        VertexStreamZeroStride.toNat))
  | DrawIndexedPrimitiveUP (PrimitiveType MinVertexIndex NumVertices PrimitiveCount
        IndexDataFormat VertexStreamZeroStride : Word)
      (pIndexData : Obj (primitiveIndices PrimitiveType PrimitiveCount.toNat *
        indexStride IndexDataFormat))
      (pVertexStreamZeroData : Obj ((MinVertexIndex.toNat + NumVertices.toNat) *
        VertexStreamZeroStride.toNat))

/-- What the client sends for a call. -/
def DeviceCall.message : DeviceCall → Message
  | .GetDisplayMode iSwapChain => ⟨.IDirect3DDevice9Ex_GetDisplayMode, [.word iSwapChain], 0⟩
  | .SetCursorProperties XHotSpot YHotSpot pCursorBitmap =>
      ⟨.IDirect3DDevice9Ex_SetCursorProperties, [.many [XHotSpot, YHotSpot, pCursorBitmap]], 0⟩
  | .SetCursorPosition X Y Flags =>
      ⟨.IDirect3DDevice9Ex_SetCursorPosition, [.many [X, Y, Flags]], 0⟩
  | .ShowCursor bShow => ⟨.IDirect3DDevice9Ex_ShowCursor, [.word bShow], 0⟩
  | .GetSwapChain iSwapChain => ⟨.IDirect3DDevice9Ex_GetSwapChain, [.word iSwapChain], 0⟩
  | .GetNumberOfSwapChains kNumImplicitSwapChains =>
      ⟨.IDirect3DDevice9Ex_GetNumberOfSwapChains, [.word kNumImplicitSwapChains], 0⟩
  | .SetDialogBoxMode bEnableDialogs =>
      ⟨.IDirect3DDevice9Ex_SetDialogBoxMode, [.word bEnableDialogs], 0⟩
  | .SetGammaRamp iSwapChain Flags pRamp =>
      ⟨.IDirect3DDevice9Ex_SetGammaRamp,
        [.many [iSwapChain, Flags], sendObj (sizeof .D3DGAMMARAMP) pRamp], 0⟩
  | .GetGammaRamp iSwapChain => ⟨.IDirect3DDevice9Ex_GetGammaRamp, [.word iSwapChain], 0⟩
  | .CreateTexture Width Height Levels Usage Format Pool id =>
      ⟨.IDirect3DDevice9Ex_CreateTexture,
        [.many [Width, Height, Levels, Usage, Format, Pool, id]], 0⟩
  | .CreateVolumeTexture Width Height Depth Levels Usage Format Pool id =>
      ⟨.IDirect3DDevice9Ex_CreateVolumeTexture,
        [.many [Width, Height, Depth, Levels, Usage, Format, Pool, id]], 0⟩
  | .CreateCubeTexture EdgeLength Levels Usage Format Pool id =>
      ⟨.IDirect3DDevice9Ex_CreateCubeTexture,
        [.many [EdgeLength, Levels, Usage, Format, Pool, id]], 0⟩
  | .CreateVertexBuffer Length Usage FVF Pool id =>
      ⟨.IDirect3DDevice9Ex_CreateVertexBuffer, [.many [Length, Usage, FVF, Pool, id]], 0⟩
  | .CreateIndexBuffer Length Usage Format Pool id =>
      ⟨.IDirect3DDevice9Ex_CreateIndexBuffer, [.many [Length, Usage, Format, Pool, id]], 0⟩
  | .CreateRenderTarget Width Height Format MultiSample MultisampleQuality Lockable id =>
      ⟨.IDirect3DDevice9Ex_CreateRenderTarget,
        [.many [Width, Height, Format, MultiSample, MultisampleQuality, Lockable, id]], 0⟩
  | .CreateDepthStencilSurface Width Height Format MultiSample MultisampleQuality Discard id =>
      ⟨.IDirect3DDevice9Ex_CreateDepthStencilSurface,
        [.many [Width, Height, Format, MultiSample, MultisampleQuality, Discard, id]], 0⟩
  | .UpdateSurface pSourceSurface pSourceRect pDestinationSurface pDestPoint =>
      ⟨.IDirect3DDevice9Ex_UpdateSurface,
        [.word pSourceSurface, sendObj (sizeof .RECT) pSourceRect, .word pDestinationSurface,
          sendObj (sizeof .POINT) pDestPoint], 0⟩
  | .UpdateTexture pSourceTexture pDestinationTexture =>
      ⟨.IDirect3DDevice9Ex_UpdateTexture, [.word pSourceTexture, .word pDestinationTexture], 0⟩
  | .GetRenderTargetData pRenderTarget pDestSurface =>
      ⟨.IDirect3DDevice9Ex_GetRenderTargetData, [.word pRenderTarget, .word pDestSurface], 0⟩
  | .GetFrontBufferData iSwapChain pDestSurface =>
      ⟨.IDirect3DDevice9Ex_GetFrontBufferData, [.many [iSwapChain, pDestSurface]], 0⟩
  | .StretchRect pSourceSurface pSourceRect pDestSurface pDestRect Filter =>
      ⟨.IDirect3DDevice9Ex_StretchRect,
        [.word pSourceSurface, sendObj (sizeof .RECT) pSourceRect, .word pDestSurface,
          sendObj (sizeof .RECT) pDestRect, .word Filter], 0⟩
  | .ColorFill pSurface pRect color =>
      ⟨.IDirect3DDevice9Ex_ColorFill,
        [.word pSurface, sendObj (sizeof .RECT) pRect, sendObj (sizeof .D3DCOLOR) color], 0⟩
  | .CreateOffscreenPlainSurface Width Height Format Pool id =>
      ⟨.IDirect3DDevice9Ex_CreateOffscreenPlainSurface,
        [.many [Width, Height, Format, Pool, id]], 0⟩
  | .SetRenderTarget RenderTargetIndex pRenderTarget =>
      ⟨.IDirect3DDevice9Ex_SetRenderTarget, [.many [RenderTargetIndex, pRenderTarget]], 0⟩
  | .GetRenderTarget RenderTargetIndex pRenderTarget =>
      ⟨.IDirect3DDevice9Ex_GetRenderTarget, [.many [RenderTargetIndex, pRenderTarget]], 0⟩
  | .SetDepthStencilSurface pNewZStencil =>
      ⟨.IDirect3DDevice9Ex_SetDepthStencilSurface, [.word pNewZStencil], 0⟩
  | .GetDepthStencilSurface pZStencilSurface =>
      ⟨.IDirect3DDevice9Ex_GetDepthStencilSurface, [.word pZStencilSurface], 0⟩
  | .Clear Count pRects Flags Color Z Stencil =>
      ⟨.IDirect3DDevice9Ex_Clear,
        [.many [Count, Flags], sendObj (sizeof .float) Z, .word Stencil,
          sendObj ((16 * Count).toNat) pRects, sendObj (sizeof .D3DCOLOR) Color], 0⟩
  | .SetTransform State pMatrix =>
      ⟨.IDirect3DDevice9Ex_SetTransform, [.word State, sendObj (sizeof .D3DMATRIX) pMatrix], 0⟩
  | .SetViewport pViewport =>
      ⟨.IDirect3DDevice9Ex_SetViewport, [sendObj (sizeof .D3DVIEWPORT9) pViewport], 0⟩
  | .SetMaterial pMaterial =>
      ⟨.IDirect3DDevice9Ex_SetMaterial, [sendObj (sizeof .D3DMATERIAL9) pMaterial], 0⟩
  | .SetLight Index pLight =>
      ⟨.IDirect3DDevice9Ex_SetLight, [.word Index, sendObj (sizeof .D3DLIGHT9) pLight], 0⟩
  | .LightEnable LightIndex bEnable =>
      ⟨.IDirect3DDevice9Ex_LightEnable, [.many [LightIndex, bEnable]], 0⟩
  | .SetClipPlane Index pPlane =>
      ⟨.IDirect3DDevice9Ex_SetClipPlane, [.word Index, sendObj (4 * sizeof .float) pPlane], 0⟩
  | .StateBatch records => ⟨.IDirect3DDevice9Ex_StateBatch, [.obj records], 0⟩
  | .SetRenderState State Value => ⟨.IDirect3DDevice9Ex_SetRenderState, [.many [State, Value]], 0⟩
  | .CreateStateBlock Type' id => ⟨.IDirect3DDevice9Ex_CreateStateBlock, [.many [Type', id]], 0⟩
  | .EndStateBlock id => ⟨.IDirect3DDevice9Ex_EndStateBlock, [.word id], 0⟩
  | .SetTexture Stage pTexture => ⟨.IDirect3DDevice9Ex_SetTexture, [.many [Stage, pTexture]], 0⟩
  | .SetTextureStageState Stage Type' Value =>
      ⟨.IDirect3DDevice9Ex_SetTextureStageState, [.many [Stage, Type', Value]], 0⟩
  | .SetSamplerState Sampler Type' Value =>
      ⟨.IDirect3DDevice9Ex_SetSamplerState, [.many [Sampler, Type', Value]], 0⟩
  | .SetScissorRect pRect => ⟨.IDirect3DDevice9Ex_SetScissorRect, [sendObj (sizeof .RECT) pRect], 0⟩
  | .SetSoftwareVertexProcessing bSoftware =>
      ⟨.IDirect3DDevice9Ex_SetSoftwareVertexProcessing, [.word bSoftware], 0⟩
  | .SetNPatchMode nSegments =>
      ⟨.IDirect3DDevice9Ex_SetNPatchMode, [sendObj (sizeof .float) nSegments], 0⟩
  | .DrawPrimitive PrimitiveType StartVertex PrimitiveCount =>
      ⟨.IDirect3DDevice9Ex_DrawPrimitive, [.many [PrimitiveType, StartVertex, PrimitiveCount]], 0⟩
  | .DrawIndexedPrimitive Type' BaseVertexIndex MinVertexIndex NumVertices startIndex primCount =>
      ⟨.IDirect3DDevice9Ex_DrawIndexedPrimitive,
        [.many [Type', BaseVertexIndex, MinVertexIndex, NumVertices, startIndex, primCount]], 0⟩
  | .ProcessVertices SrcStartIndex DestIndex VertexCount pDestBuffer pVertexDecl Flags =>
      ⟨.IDirect3DDevice9Ex_ProcessVertices,
        [.many [SrcStartIndex, DestIndex, VertexCount], .word pDestBuffer, .word pVertexDecl,
          .word Flags], 0⟩
  | .CreateVertexDeclaration numElem pVertexElements id =>
      ⟨.IDirect3DDevice9Ex_CreateVertexDeclaration,
        [.word numElem, sendObj ((8 * numElem).toNat) pVertexElements, .word id], 0⟩
  | .SetVertexDeclaration pDecl => ⟨.IDirect3DDevice9Ex_SetVertexDeclaration, [.word pDecl], 0⟩
  | .SetFVF FVF => ⟨.IDirect3DDevice9Ex_SetFVF, [.word FVF], 0⟩
  | .CreateVertexShader id dataSize pFunction =>
      ⟨.IDirect3DDevice9Ex_CreateVertexShader,
        [.word id, .word dataSize, sendObj dataSize.toNat pFunction], 0⟩
  | .SetVertexShader pShader => ⟨.IDirect3DDevice9Ex_SetVertexShader, [.word pShader], 0⟩
  | .SetStreamSource StreamNumber pStreamData OffsetInBytes Stride =>
      ⟨.IDirect3DDevice9Ex_SetStreamSource,
        [.many [StreamNumber, pStreamData, OffsetInBytes, Stride]], 0⟩
  | .SetStreamSourceFreq StreamNumber Divider =>
      ⟨.IDirect3DDevice9Ex_SetStreamSourceFreq, [.many [StreamNumber, Divider]], 0⟩
  | .SetIndices pIndexData => ⟨.IDirect3DDevice9Ex_SetIndices, [.word pIndexData], 0⟩
  | .CreatePixelShader id dataSize pFunction =>
      ⟨.IDirect3DDevice9Ex_CreatePixelShader,
        [.word id, .word dataSize, sendObj dataSize.toNat pFunction], 0⟩
  | .SetPixelShader pShader => ⟨.IDirect3DDevice9Ex_SetPixelShader, [.word pShader], 0⟩
  | .CreateQuery Type' id => ⟨.IDirect3DDevice9Ex_CreateQuery, [.many [Type', id]], 0⟩
  | .SetConvolutionMonoKernel width height rows columns =>
      ⟨.IDirect3DDevice9Ex_SetConvolutionMonoKernel,
        [.word width, .word height, sendObj ((4 * width).toNat) rows,
          sendObj ((4 * height).toNat) columns], 0⟩
  | .ComposeRects pSrc pDst pSrcRectDescs pDstRectDescs NumRects Operation Xoffset Yoffset =>
      ⟨.IDirect3DDevice9Ex_ComposeRects,
        [
          .many [pSrc, pDst, pSrcRectDescs, pDstRectDescs, NumRects, Operation, Xoffset, Yoffset]], 0⟩
  | .CheckDeviceState hDestinationWindow =>
      ⟨.IDirect3DDevice9Ex_CheckDeviceState, [.word hDestinationWindow], 0⟩
  | .CreateRenderTargetEx Width Height Format MultiSample MultisampleQuality Lockable Usage id =>
      ⟨.IDirect3DDevice9Ex_CreateRenderTargetEx,
        [.many [Width, Height, Format, MultiSample, MultisampleQuality, Lockable, Usage, id]], 0⟩
  | .CreateOffscreenPlainSurfaceEx Width Height Format Pool Usage id =>
      ⟨.IDirect3DDevice9Ex_CreateOffscreenPlainSurfaceEx,
        [.many [Width, Height, Format, Pool, Usage, id]], 0⟩
  | .CreateDepthStencilSurfaceEx Width Height Format MultiSample MultisampleQuality Discard Usage id =>
      ⟨.IDirect3DDevice9Ex_CreateDepthStencilSurfaceEx,
        [.many [Width, Height, Format, MultiSample, MultisampleQuality, Discard, Usage, id]], 0⟩
  | .GetDisplayModeEx iSwapChain => ⟨.IDirect3DDevice9Ex_GetDisplayModeEx, [.word iSwapChain], 0⟩
  | .LinkSwapchain id => ⟨.IDirect3DDevice9Ex_LinkSwapchain, [.word id], 0⟩
  | .LinkBackBuffer index id => ⟨.IDirect3DDevice9Ex_LinkBackBuffer, [.many [index, id]], 0⟩
  | .LinkAutoDepthStencil id => ⟨.IDirect3DDevice9Ex_LinkAutoDepthStencil, [.word id], 0⟩
  | .SetShaderConstant func StartRegister Count pConstantData =>
      ⟨func.command, [.many [StartRegister, Count],
        sendObj (Count * BitVec.ofNat 32 func.registerSize).toNat pConstantData], 0⟩
  | .DrawPrimitiveUP PrimitiveType PrimitiveCount VertexStreamZeroStride pVertexStreamZeroData =>
      ⟨.IDirect3DDevice9Ex_DrawPrimitiveUP, [.many [PrimitiveType, PrimitiveCount],
        sendObj (GetIndexCount PrimitiveType PrimitiveCount * VertexStreamZeroStride).toNat
          pVertexStreamZeroData,
        .word VertexStreamZeroStride], 0⟩
  | .DrawIndexedPrimitiveUP PrimitiveType MinIndex NumVertices PrimitiveCount IndexDataFormat
      VertexStreamZeroStride pIndexData pVertexStreamZeroData =>
      ⟨.IDirect3DDevice9Ex_DrawIndexedPrimitiveUP,
        [.many [PrimitiveType, MinIndex, NumVertices, PrimitiveCount, IndexDataFormat,
          VertexStreamZeroStride],
        sendObj (GetIndexCount PrimitiveType PrimitiveCount *
          BitVec.ofNat 32 (indexStride IndexDataFormat)).toNat pIndexData,
        sendObj (NumVertices * VertexStreamZeroStride).toNat pVertexStreamZeroData], 0⟩

variable {m_size : Nat}

/-- The six `Set…ShaderConstant…` cases of the server's switch. -/
def pullShaderConstant (func : ShaderConst) : PullM m_size DeviceCall := do
  let StartRegister ← getData
  let Count ← getData
  let pConstantData ← getObj (Count.toNat * func.registerSize)
  return .SetShaderConstant func StartRegister Count pConstantData

/-- The `DrawIndexedPrimitiveUP` case. -/
def pullDrawIndexedPrimitiveUP : PullM m_size DeviceCall := do
  let PrimitiveType ← getData; let MinVertexIndex ← getData; let NumVertices ← getData
  let PrimitiveCount ← getData; let IndexDataFormat ← getData
  let VertexStreamZeroStride ← getData
  let pIndexData ← getObj _
  let pVertexStreamZeroData ← getObj _
  return .DrawIndexedPrimitiveUP PrimitiveType MinVertexIndex NumVertices PrimitiveCount
    IndexDataFormat VertexStreamZeroStride pIndexData pVertexStreamZeroData

/-- What the server pulls for a command, and the call it makes. -/
def DeviceCall.process : D3D9Command → Option (PullM m_size DeviceCall)
  | .IDirect3DDevice9Ex_GetDisplayMode => some do
      let iSwapChain ← getData
      return .GetDisplayMode iSwapChain
  | .IDirect3DDevice9Ex_SetCursorProperties => some do
      let XHotSpot ← getData; let YHotSpot ← getData; let pHandle ← getData
      return .SetCursorProperties XHotSpot YHotSpot pHandle
  | .IDirect3DDevice9Ex_SetCursorPosition => some do
      let X ← getData; let Y ← getData; let Flags ← getData
      return .SetCursorPosition X Y Flags
  | .IDirect3DDevice9Ex_ShowCursor => some do
      let bShow ← getData
      return .ShowCursor bShow
  | .IDirect3DDevice9Ex_GetSwapChain => some do
      let iSwapChain ← getData
      return .GetSwapChain iSwapChain
  | .IDirect3DDevice9Ex_GetNumberOfSwapChains => some do
      let orig_cnt ← getData
      return .GetNumberOfSwapChains orig_cnt
  | .IDirect3DDevice9Ex_SetDialogBoxMode => some do
      let bEnableDialogs ← getData
      return .SetDialogBoxMode bEnableDialogs
  | .IDirect3DDevice9Ex_SetGammaRamp => some do
      let iSwapChain ← getData; let Flags ← getData; let pRamp ← getObj (sizeof .D3DGAMMARAMP)
      return .SetGammaRamp iSwapChain Flags pRamp
  | .IDirect3DDevice9Ex_GetGammaRamp => some do
      let iSwapChain ← getData
      return .GetGammaRamp iSwapChain
  | .IDirect3DDevice9Ex_CreateTexture => some do
      let Width ← getData; let Height ← getData; let Levels ← getData; let Usage ← getData
      let Format ← getData; let Pool ← getData; let pHandle ← getData
      return .CreateTexture Width Height Levels Usage Format Pool pHandle
  | .IDirect3DDevice9Ex_CreateVolumeTexture => some do
      let Width ← getData; let Height ← getData; let Depth ← getData; let Levels ← getData
      let Usage ← getData; let Format ← getData; let Pool ← getData; let pHandle ← getData
      return .CreateVolumeTexture Width Height Depth Levels Usage Format Pool pHandle
  | .IDirect3DDevice9Ex_CreateCubeTexture => some do
      let EdgeLength ← getData; let Levels ← getData; let Usage ← getData; let Format ← getData
      let Pool ← getData; let pHandle ← getData
      return .CreateCubeTexture EdgeLength Levels Usage Format Pool pHandle
  | .IDirect3DDevice9Ex_CreateVertexBuffer => some do
      let Length ← getData; let Usage ← getData; let FVF ← getData; let Pool ← getData
      let pHandle ← getData
      return .CreateVertexBuffer Length Usage FVF Pool pHandle
  | .IDirect3DDevice9Ex_CreateIndexBuffer => some do
      let Length ← getData; let Usage ← getData; let Format ← getData; let Pool ← getData
      let pHandle ← getData
      return .CreateIndexBuffer Length Usage Format Pool pHandle
  | .IDirect3DDevice9Ex_CreateRenderTarget => some do
      let Width ← getData; let Height ← getData; let Format ← getData; let MultiSample ← getData
      let MultisampleQuality ← getData; let Lockable ← getData; let pHandle ← getData
      return .CreateRenderTarget Width Height Format MultiSample MultisampleQuality Lockable pHandle
  | .IDirect3DDevice9Ex_CreateDepthStencilSurface => some do
      let Width ← getData; let Height ← getData; let Format ← getData; let MultiSample ← getData
      let MultisampleQuality ← getData; let Discard ← getData; let pHandle ← getData
      return .CreateDepthStencilSurface Width Height Format MultiSample MultisampleQuality Discard pHandle
  | .IDirect3DDevice9Ex_UpdateSurface => some do
      let pSourceHandle ← getData; let pSourceRect ← getObj (sizeof .RECT)
      let pDestHandle ← getData; let pDestPoint ← getObj (sizeof .POINT)
      return .UpdateSurface pSourceHandle pSourceRect pDestHandle pDestPoint
  | .IDirect3DDevice9Ex_UpdateTexture => some do
      let pSourceTextureHandle ← getData; let pDestinationTextureHandle ← getData
      return .UpdateTexture pSourceTextureHandle pDestinationTextureHandle
  | .IDirect3DDevice9Ex_GetRenderTargetData => some do
      let pRenderTargetHandle ← getData; let pDestSurfaceHandle ← getData
      return .GetRenderTargetData pRenderTargetHandle pDestSurfaceHandle
  | .IDirect3DDevice9Ex_GetFrontBufferData => some do
      let iSwapChain ← getData; let pDestSurfaceHandle ← getData
      return .GetFrontBufferData iSwapChain pDestSurfaceHandle
  | .IDirect3DDevice9Ex_StretchRect => some do
      let pSourceHandle ← getData; let pSourceRect ← getObj (sizeof .RECT)
      let pDestHandle ← getData; let pDestRect ← getObj (sizeof .RECT); let Filter ← getData
      return .StretchRect pSourceHandle pSourceRect pDestHandle pDestRect Filter
  | .IDirect3DDevice9Ex_ColorFill => some do
      let pHandle ← getData; let pRect ← getObj (sizeof .RECT)
      let color ← getObj (sizeof .D3DCOLOR)
      return .ColorFill pHandle pRect color
  | .IDirect3DDevice9Ex_CreateOffscreenPlainSurface => some do
      let Width ← getData; let Height ← getData; let Format ← getData; let Pool ← getData
      let pHandle ← getData
      return .CreateOffscreenPlainSurface Width Height Format Pool pHandle
  | .IDirect3DDevice9Ex_SetRenderTarget => some do
      let RenderTargetIndex ← getData; let pHandle ← getData
      return .SetRenderTarget RenderTargetIndex pHandle
  | .IDirect3DDevice9Ex_GetRenderTarget => some do
      let RenderTargetIndex ← getData; let pSurfaceHandle ← getData
      return .GetRenderTarget RenderTargetIndex pSurfaceHandle
  | .IDirect3DDevice9Ex_SetDepthStencilSurface => some do
      let pHandle ← getData
      return .SetDepthStencilSurface pHandle
  | .IDirect3DDevice9Ex_GetDepthStencilSurface => some do
      let pSurfaceHandle ← getData
      return .GetDepthStencilSurface pSurfaceHandle
  | .IDirect3DDevice9Ex_Clear => some do
      let Count ← getData; let Flags ← getData; let Z ← getObj (sizeof .float)
      let Stencil ← getData; let pRects ← getObj (16 * Count.toNat)
      let Color ← getObj (sizeof .D3DCOLOR)
      return .Clear Count pRects Flags Color Z Stencil
  | .IDirect3DDevice9Ex_SetTransform => some do
      let State ← getData; let pMatrix ← getObj (sizeof .D3DMATRIX)
      return .SetTransform State pMatrix
  | .IDirect3DDevice9Ex_SetViewport => some do
      let pViewport ← getObj (sizeof .D3DVIEWPORT9)
      return .SetViewport pViewport
  | .IDirect3DDevice9Ex_SetMaterial => some do
      let pMaterial ← getObj (sizeof .D3DMATERIAL9)
      return .SetMaterial pMaterial
  | .IDirect3DDevice9Ex_SetLight => some do
      let Index ← getData; let pLight ← getObj (sizeof .D3DLIGHT9)
      return .SetLight Index pLight
  | .IDirect3DDevice9Ex_LightEnable => some do
      let LightIndex ← getData; let bEnable ← getData
      return .LightEnable LightIndex bEnable
  | .IDirect3DDevice9Ex_SetClipPlane => some do
      let Index ← getData; let pPlane ← getObj (4 * sizeof .float)
      return .SetClipPlane Index pPlane
  | .IDirect3DDevice9Ex_StateBatch => some do
      let p ← getBytes
      return .StateBatch p
  | .IDirect3DDevice9Ex_SetRenderState => some do
      let State ← getData; let Value ← getData
      return .SetRenderState State Value
  | .IDirect3DDevice9Ex_CreateStateBlock => some do
      let Type' ← getData; let pHandle ← getData
      return .CreateStateBlock Type' pHandle
  | .IDirect3DDevice9Ex_EndStateBlock => some do
      let pHandle ← getData
      return .EndStateBlock pHandle
  | .IDirect3DDevice9Ex_SetTexture => some do
      let Stage ← getData; let pHandle ← getData
      return .SetTexture Stage pHandle
  | .IDirect3DDevice9Ex_SetTextureStageState => some do
      let Stage ← getData; let Type' ← getData; let Value ← getData
      return .SetTextureStageState Stage Type' Value
  | .IDirect3DDevice9Ex_SetSamplerState => some do
      let Sampler ← getData; let Type' ← getData; let Value ← getData
      return .SetSamplerState Sampler Type' Value
  | .IDirect3DDevice9Ex_SetScissorRect => some do
      let pRect ← getObj (sizeof .RECT)
      return .SetScissorRect pRect
  | .IDirect3DDevice9Ex_SetSoftwareVertexProcessing => some do
      let bSoftware ← getData
      return .SetSoftwareVertexProcessing bSoftware
  | .IDirect3DDevice9Ex_SetNPatchMode => some do
      let nSegments ← getObj (sizeof .float)
      return .SetNPatchMode nSegments
  | .IDirect3DDevice9Ex_DrawPrimitive => some do
      let PrimitiveType ← getData; let StartVertex ← getData; let PrimitiveCount ← getData
      return .DrawPrimitive PrimitiveType StartVertex PrimitiveCount
  | .IDirect3DDevice9Ex_DrawIndexedPrimitive => some do
      let Type' ← getData; let BaseVertexIndex ← getData; let MinVertexIndex ← getData
      let NumVertices ← getData; let startIndex ← getData; let primCount ← getData
      return .DrawIndexedPrimitive Type' BaseVertexIndex MinVertexIndex NumVertices startIndex primCount
  | .IDirect3DDevice9Ex_ProcessVertices => some do
      let SrcStartIndex ← getData; let DestIndex ← getData; let VertexCount ← getData
      let pVertexBufferHandle ← getData; let pVertexDeclHandle ← getData; let Flags ← getData
      return .ProcessVertices SrcStartIndex DestIndex VertexCount pVertexBufferHandle pVertexDeclHandle Flags
  | .IDirect3DDevice9Ex_CreateVertexDeclaration => some do
      let numOfElements ← getData; let pVertexElements ← getObj (8 * numOfElements.toNat)
      let pHandle ← getData
      return .CreateVertexDeclaration numOfElements pVertexElements pHandle
  | .IDirect3DDevice9Ex_SetVertexDeclaration => some do
      let pHandle ← getData
      return .SetVertexDeclaration pHandle
  | .IDirect3DDevice9Ex_SetFVF => some do
      let FVF ← getData
      return .SetFVF FVF
  | .IDirect3DDevice9Ex_CreateVertexShader => some do
      let pHandle ← getData; let dataSize ← getData; let pFunction ← getObj dataSize.toNat
      return .CreateVertexShader pHandle dataSize pFunction
  | .IDirect3DDevice9Ex_SetVertexShader => some do
      let pHandle ← getData
      return .SetVertexShader pHandle
  | .IDirect3DDevice9Ex_SetStreamSource => some do
      let StreamNumber ← getData; let pHandle ← getData; let OffsetInBytes ← getData
      let Stride ← getData
      return .SetStreamSource StreamNumber pHandle OffsetInBytes Stride
  | .IDirect3DDevice9Ex_SetStreamSourceFreq => some do
      let StreamNumber ← getData; let Divider ← getData
      return .SetStreamSourceFreq StreamNumber Divider
  | .IDirect3DDevice9Ex_SetIndices => some do
      let pHandle ← getData
      return .SetIndices pHandle
  | .IDirect3DDevice9Ex_CreatePixelShader => some do
      let pHandle ← getData; let dataSize ← getData; let pFunction ← getObj dataSize.toNat
      return .CreatePixelShader pHandle dataSize pFunction
  | .IDirect3DDevice9Ex_SetPixelShader => some do
      let pHandle ← getData
      return .SetPixelShader pHandle
  | .IDirect3DDevice9Ex_CreateQuery => some do
      let Type' ← getData; let pHandle ← getData
      return .CreateQuery Type' pHandle
  | .IDirect3DDevice9Ex_SetConvolutionMonoKernel => some do
      let WIDTH ← getData; let HEIGHT ← getData; let pRows ← getObj (4 * WIDTH.toNat)
      let pColumns ← getObj (4 * HEIGHT.toNat)
      return .SetConvolutionMonoKernel WIDTH HEIGHT pRows pColumns
  | .IDirect3DDevice9Ex_ComposeRects => some do
      let pSrcSurface ← getData; let pDestSurface ← getData; let pSrcRect ← getData
      let pDestRect ← getData; let NumRects ← getData; let Operation ← getData
      let Xoffset ← getData; let Yoffset ← getData
      return .ComposeRects pSrcSurface pDestSurface pSrcRect pDestRect NumRects Operation Xoffset Yoffset
  | .IDirect3DDevice9Ex_CheckDeviceState => some do
      let hDestinationWindow ← getData
      return .CheckDeviceState hDestinationWindow
  | .IDirect3DDevice9Ex_CreateRenderTargetEx => some do
      let Width ← getData; let Height ← getData; let Format ← getData; let MultiSample ← getData
      let MultisampleQuality ← getData; let Lockable ← getData; let Usage ← getData
      let pHandle ← getData
      return .CreateRenderTargetEx Width Height Format MultiSample MultisampleQuality Lockable Usage pHandle
  | .IDirect3DDevice9Ex_CreateOffscreenPlainSurfaceEx => some do
      let Width ← getData; let Height ← getData; let Format ← getData; let Pool ← getData
      let Usage ← getData; let pHandle ← getData
      return .CreateOffscreenPlainSurfaceEx Width Height Format Pool Usage pHandle
  | .IDirect3DDevice9Ex_CreateDepthStencilSurfaceEx => some do
      let Width ← getData; let Height ← getData; let Format ← getData; let MultiSample ← getData
      let MultisampleQuality ← getData; let Discard ← getData; let Usage ← getData
      let pHandle ← getData
      return .CreateDepthStencilSurfaceEx Width Height Format MultiSample MultisampleQuality Discard Usage pHandle
  | .IDirect3DDevice9Ex_GetDisplayModeEx => some do
      let iSwapChain ← getData
      return .GetDisplayModeEx iSwapChain
  | .IDirect3DDevice9Ex_LinkSwapchain => some do
      let pClientSwapchain ← getData
      return .LinkSwapchain pClientSwapchain
  | .IDirect3DDevice9Ex_LinkBackBuffer => some do
      let index ← getData; let pSurfaceHandle ← getData
      return .LinkBackBuffer index pSurfaceHandle
  | .IDirect3DDevice9Ex_LinkAutoDepthStencil => some do
      let pSurfaceHandle ← getData
      return .LinkAutoDepthStencil pSurfaceHandle
  | .IDirect3DDevice9Ex_SetVertexShaderConstantF =>
      some (pullShaderConstant .SetVertexShaderConstantF)
  | .IDirect3DDevice9Ex_SetVertexShaderConstantI =>
      some (pullShaderConstant .SetVertexShaderConstantI)
  | .IDirect3DDevice9Ex_SetVertexShaderConstantB =>
      some (pullShaderConstant .SetVertexShaderConstantB)
  | .IDirect3DDevice9Ex_SetPixelShaderConstantF =>
      some (pullShaderConstant .SetPixelShaderConstantF)
  | .IDirect3DDevice9Ex_SetPixelShaderConstantI =>
      some (pullShaderConstant .SetPixelShaderConstantI)
  | .IDirect3DDevice9Ex_SetPixelShaderConstantB =>
      some (pullShaderConstant .SetPixelShaderConstantB)
  | .IDirect3DDevice9Ex_DrawPrimitiveUP => some do
      let PrimitiveType ← getData; let PrimitiveCount ← getData
      let p ← getRef
      let VertexStreamZeroStride ← getData
      -- The vertices are read where `p` points to, once their stride is known.
      let pVertexStreamZeroData ← deref _ p
      return .DrawPrimitiveUP PrimitiveType PrimitiveCount VertexStreamZeroStride
        pVertexStreamZeroData
  | .IDirect3DDevice9Ex_DrawIndexedPrimitiveUP => some pullDrawIndexedPrimitiveUP
  | _ => none

def DeviceCall.switch : Switch DeviceCall := fun _ command _ => process command

/-! ### Which calls come over -/

/-- The vertices that a call gives by pointer are those it sends: none of them lies before the
first that is used. -/
def DeviceCall.Sound : DeviceCall → Prop
  | .DrawIndexedPrimitiveUP _ MinVertexIndex _ _ _ VertexStreamZeroStride _ vertices =>
      MinVertexIndex.toNat * VertexStreamZeroStride.toNat = 0 ∨ vertices.bytes = []
  | _ => True

theorem DeviceCall.reads (mem : Memory) (e : Nat) (c : DeviceCall) (hc : c.Sound) :
    ∃ p : PullM m_size DeviceCall, process c.message.command = some p ∧
      Reads mem e p (dataOf c.message.data) c := by
  cases c
  case DrawIndexedPrimitiveUP PrimitiveType MinVertexIndex NumVertices PrimitiveCount
      IndexDataFormat VertexStreamZeroStride pIndexData pVertexStreamZeroData =>
    have hindices : pIndexData.bytes.take (GetIndexCount PrimitiveType PrimitiveCount *
        BitVec.ofNat 32 (indexStride IndexDataFormat)).toNat = pIndexData.bytes :=
      pIndexData.take_bytes (by simp [BitVec.toNat_mul, toNat_GetIndexCount])
    have hvertices : pVertexStreamZeroData.bytes.take
        (NumVertices * VertexStreamZeroStride).toNat = pVertexStreamZeroData.bytes := by
      rcases hc with hmin | hnull
      · refine pVertexStreamZeroData.take_bytes ?_
        rw [Nat.add_mul, hmin, Nat.zero_add, BitVec.toNat_mul]
      · rw [hnull, List.take_nil]
    exact ⟨_, rfl, .word <| .word <| .word <| .word <| .word <| .word <|
      .obj hindices <| .obj hvertices <| .pure _⟩
  case DrawPrimitiveUP PrimitiveType PrimitiveCount VertexStreamZeroStride pVertexStreamZeroData =>
    have hvertices : pVertexStreamZeroData.bytes.take (GetIndexCount PrimitiveType PrimitiveCount *
        VertexStreamZeroStride).toNat = pVertexStreamZeroData.bytes :=
      pVertexStreamZeroData.take_bytes (by simp [BitVec.toNat_mul, toNat_GetIndexCount])
    exact ⟨_, rfl, .word <| .word <| .ref hvertices fun _ hp => .word <| .deref hp <| .pure _⟩
  case SetShaderConstant func StartRegister Count pConstantData =>
    have hlen : (Count * BitVec.ofNat 32 func.registerSize).toNat =
        Count.toNat * func.registerSize % 2 ^ 32 := by
      simp [BitVec.toNat_mul]
    have hreads : Reads mem e (pullShaderConstant func : PullM m_size _)
        (dataOf (message (.SetShaderConstant func StartRegister Count pConstantData)).data)
        (.SetShaderConstant func StartRegister Count pConstantData) :=
      .word <| .word <| .obj (pConstantData.take_bytes hlen) <| .pure _
    cases func <;> exact ⟨_, rfl, hreads⟩
  case CreateVertexShader id dataSize pFunction =>
    exact ⟨_, rfl, .word <| .word <|
      .obj (pFunction.take_bytes (Nat.mod_eq_of_lt dataSize.isLt).symm) <| .pure _⟩
  case CreatePixelShader id dataSize pFunction =>
    exact ⟨_, rfl, .word <| .word <|
      .obj (pFunction.take_bytes (Nat.mod_eq_of_lt dataSize.isLt).symm) <| .pure _⟩
  case StateBatch records => exact ⟨_, rfl, .bytes <| .pure _⟩
  -- The other calls are words and objects whose lengths come with their sizes.
  all_goals
    refine ⟨_, rfl, ?_⟩
    repeat' first
      | exact Reads.pure _
      | apply Reads.word
      | apply Reads.obj (Obj.take_bytes _ (sizeof_mod _))
      | refine Reads.obj (Obj.take_bytes _ (by simp [sizeof])) ?_

/-- The vertices that a call gives by pointer. -/
def DeviceCall.vertices : DeviceCall → List Byte
  | .DrawIndexedPrimitiveUP _ _ _ _ _ _ _ pVertexStreamZeroData => pVertexStreamZeroData.bytes
  | _ => []

/-- The client sends `NumVertices` vertices from the first on, and the runtime reads as many
behind the first `MinVertexIndex`: the last of them is what the ring held. -/
theorem DeviceCall.not_delivers {PrimitiveType MinVertexIndex NumVertices PrimitiveCount
      IndexDataFormat VertexStreamZeroStride : Word}
    {pIndexData : Obj (primitiveIndices PrimitiveType PrimitiveCount.toNat *
      indexStride IndexDataFormat)}
    {pVertexStreamZeroData : Obj ((MinVertexIndex.toNat + NumVertices.toNat) *
      VertexStreamZeroStride.toNat)}
    (hmin : MinVertexIndex.toNat * VertexStreamZeroStride.toNat ≠ 0)
    (hne : pVertexStreamZeroData.bytes ≠ []) :
    ¬ Delivers switch (message (.DrawIndexedPrimitiveUP PrimitiveType MinVertexIndex NumVertices
        PrimitiveCount IndexDataFormat VertexStreamZeroStride pIndexData pVertexStreamZeroData))
      (.DrawIndexedPrimitiveUP PrimitiveType MinVertexIndex NumVertices PrimitiveCount
        IndexDataFormat VertexStreamZeroStride pIndexData pVertexStreamZeroData) := by
  intro h
  have hlen : pVertexStreamZeroData.bytes.length =
      (MinVertexIndex.toNat + NumVertices.toNat) * VertexStreamZeroStride.toNat :=
    pVertexStreamZeroData.length.resolve_left hne
  have hword := pVertexStreamZeroData.lt_word
  have hsent : (NumVertices * VertexStreamZeroStride).toNat <
      pVertexStreamZeroData.bytes.length := by
    rw [hlen, Nat.add_mul] at hword ⊢
    rw [BitVec.toNat_mul, Nat.mod_eq_of_lt (by omega)]
    omega
  have hindices : pIndexData.bytes.take (GetIndexCount PrimitiveType PrimitiveCount *
      BitVec.ofNat 32 (indexStride IndexDataFormat)).toNat = pIndexData.bytes :=
    pIndexData.take_bytes (by simp [BitVec.toNat_mul, toNat_GetIndexCount])
  obtain ⟨m_size, mem, hn, hfit, hread⟩ := exists_short
    [.many [PrimitiveType, MinVertexIndex, NumVertices, PrimitiveCount, IndexDataFormat,
        VertexStreamZeroStride],
      sendObj (GetIndexCount PrimitiveType PrimitiveCount *
        BitVec.ofNat 32 (indexStride IndexDataFormat)).toNat pIndexData]
    (pVertexStreamZeroData.bytes.take (NumVertices * VertexStreamZeroStride).toNat)
    (by rwa [List.length_take_of_le hsent.le])
    (by
      intro bytes hb
      simp only [sendObj, List.mem_cons, reduceCtorEq, Push.obj.injEq, List.not_mem_nil,
        or_false, false_or] at hb
      exact hb ▸ pIndexData.length_take_lt _)
  have hreads : ∀ M e, Reads M e (pullDrawIndexedPrimitiveUP : PullM m_size _)
      (dataOf (message (.DrawIndexedPrimitiveUP PrimitiveType MinVertexIndex NumVertices
        PrimitiveCount IndexDataFormat VertexStreamZeroStride pIndexData
        pVertexStreamZeroData)).data)
      (.DrawIndexedPrimitiveUP PrimitiveType MinVertexIndex NumVertices PrimitiveCount
        IndexDataFormat VertexStreamZeroStride pIndexData (M.short e _ _)) := fun M e =>
    .word <| .word <| .word <| .word <| .word <| .word <| .obj hindices <| .short <| .pure _
  obtain ⟨p, hp, hrun⟩ := h m_size m_size mem hn hfit
  cases hp
  have heq := ((hreads _ _).run hn mem hfit).symm.trans hrun
  rw [Nat.mod_self] at heq
  exact hread (Obj.ext (congrArg (fun r => r.1.vertices) heq))

theorem DeviceCall.delivers_iff (c : DeviceCall) : Delivers switch c.message c ↔ c.Sound := by
  constructor
  · intro h
    cases c
    case DrawIndexedPrimitiveUP =>
      by_contra hc
      exact not_delivers (fun hmin => hc (.inl hmin)) (fun hnull => hc (.inr hnull)) h
    all_goals trivial
  · exact fun hc => Delivers.of_reads fun m_size mem e => c.reads mem e hc

end RemixBridge
