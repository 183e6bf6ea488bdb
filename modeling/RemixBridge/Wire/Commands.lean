import Mathlib.Algebra.Group.Nat.Defs
import Mathlib.Tactic.TypeStar

/-!
# Wire — Commands

The commands of `util_commands.h` and the header each of them travels under.
-/

namespace RemixBridge

/-- A word of a data ring, and the type of every argument that travels in one. -/
abbrev Word := BitVec 32

/-- `Commands::D3D9Command`, without the commands that neither side sends. -/
inductive D3D9Command where
  | Bridge_Terminate | Bridge_Invalid | Bridge_Syn | Bridge_Ack | Bridge_Continue | Bridge_Any
  | Bridge_Response | Bridge_DebugMessage | RemixApi_CreateMaterial
  | RemixApi_DestroyMaterial | RemixApi_CreateMesh | RemixApi_DestroyMesh | RemixApi_DrawInstance
  | RemixApi_CreateLight | RemixApi_DestroyLight | RemixApi_DrawLightInstance
  | RemixApi_SetConfigVariable | Bridge_SharedHeap_AddSeg | Bridge_SharedHeap_Alloc
  | Bridge_SharedHeap_Dealloc | Bridge_UnlinkResource | Bridge_UnlinkVolumeResource
  | IDirect3DDevice9Ex_LinkSwapchain | IDirect3DDevice9Ex_LinkBackBuffer
  | IDirect3DDevice9Ex_LinkAutoDepthStencil | IDirect3D9Ex_Destroy | IDirect3D9Ex_GetAdapterCount
  | IDirect3D9Ex_GetAdapterIdentifier | IDirect3D9Ex_GetAdapterModeCount
  | IDirect3D9Ex_EnumAdapterModes | IDirect3D9Ex_GetAdapterDisplayMode
  | IDirect3D9Ex_CheckDeviceType | IDirect3D9Ex_CheckDeviceFormat
  | IDirect3D9Ex_CheckDeviceMultiSampleType | IDirect3D9Ex_CheckDepthStencilMatch
  | IDirect3D9Ex_CheckDeviceFormatConversion | IDirect3D9Ex_GetDeviceCaps
  | IDirect3D9Ex_GetAdapterMonitor | IDirect3D9Ex_CreateDevice
  | IDirect3D9Ex_GetAdapterModeCountEx | IDirect3D9Ex_EnumAdapterModesEx
  | IDirect3D9Ex_GetAdapterDisplayModeEx | IDirect3D9Ex_CreateDeviceEx
  | IDirect3D9Ex_GetAdapterLUID | IDirect3DDevice9Ex_Destroy
  | IDirect3DDevice9Ex_GetAvailableTextureMem | IDirect3DDevice9Ex_EvictManagedResources
  | IDirect3DDevice9Ex_GetDirect3D | IDirect3DDevice9Ex_GetDeviceCaps
  | IDirect3DDevice9Ex_GetDisplayMode | IDirect3DDevice9Ex_SetCursorProperties
  | IDirect3DDevice9Ex_SetCursorPosition | IDirect3DDevice9Ex_ShowCursor
  | IDirect3DDevice9Ex_CreateAdditionalSwapChain | IDirect3DDevice9Ex_GetSwapChain
  | IDirect3DDevice9Ex_GetNumberOfSwapChains | IDirect3DDevice9Ex_Reset
  | IDirect3DDevice9Ex_SetDialogBoxMode | IDirect3DDevice9Ex_SetGammaRamp
  | IDirect3DDevice9Ex_GetGammaRamp | IDirect3DDevice9Ex_CreateTexture
  | IDirect3DDevice9Ex_CreateVolumeTexture | IDirect3DDevice9Ex_CreateCubeTexture
  | IDirect3DDevice9Ex_CreateVertexBuffer | IDirect3DDevice9Ex_CreateIndexBuffer
  | IDirect3DDevice9Ex_CreateRenderTarget | IDirect3DDevice9Ex_CreateDepthStencilSurface
  | IDirect3DDevice9Ex_UpdateSurface | IDirect3DDevice9Ex_UpdateTexture
  | IDirect3DDevice9Ex_GetRenderTargetData | IDirect3DDevice9Ex_GetFrontBufferData
  | IDirect3DDevice9Ex_StretchRect | IDirect3DDevice9Ex_ColorFill
  | IDirect3DDevice9Ex_CreateOffscreenPlainSurface | IDirect3DDevice9Ex_SetRenderTarget
  | IDirect3DDevice9Ex_GetRenderTarget | IDirect3DDevice9Ex_SetDepthStencilSurface
  | IDirect3DDevice9Ex_GetDepthStencilSurface | IDirect3DDevice9Ex_BeginScene
  | IDirect3DDevice9Ex_EndScene | IDirect3DDevice9Ex_Clear | IDirect3DDevice9Ex_SetTransform
  | IDirect3DDevice9Ex_SetViewport | IDirect3DDevice9Ex_SetMaterial | IDirect3DDevice9Ex_SetLight
  | IDirect3DDevice9Ex_LightEnable | IDirect3DDevice9Ex_SetClipPlane
  | IDirect3DDevice9Ex_SetRenderState | IDirect3DDevice9Ex_CreateStateBlock
  | IDirect3DDevice9Ex_BeginStateBlock | IDirect3DDevice9Ex_EndStateBlock
  | IDirect3DDevice9Ex_SetTexture | IDirect3DDevice9Ex_SetTextureStageState
  | IDirect3DDevice9Ex_SetSamplerState | IDirect3DDevice9Ex_SetScissorRect
  | IDirect3DDevice9Ex_SetSoftwareVertexProcessing | IDirect3DDevice9Ex_SetNPatchMode
  | IDirect3DDevice9Ex_DrawPrimitive | IDirect3DDevice9Ex_DrawIndexedPrimitive
  | IDirect3DDevice9Ex_DrawPrimitiveUP | IDirect3DDevice9Ex_DrawIndexedPrimitiveUP
  | IDirect3DDevice9Ex_ProcessVertices | IDirect3DDevice9Ex_CreateVertexDeclaration
  | IDirect3DDevice9Ex_SetVertexDeclaration | IDirect3DDevice9Ex_SetFVF
  | IDirect3DDevice9Ex_CreateVertexShader | IDirect3DDevice9Ex_SetVertexShader
  | IDirect3DDevice9Ex_SetVertexShaderConstantF | IDirect3DDevice9Ex_SetVertexShaderConstantI
  | IDirect3DDevice9Ex_SetVertexShaderConstantB | IDirect3DDevice9Ex_SetStreamSource
  | IDirect3DDevice9Ex_SetStreamSourceFreq | IDirect3DDevice9Ex_SetIndices
  | IDirect3DDevice9Ex_CreatePixelShader | IDirect3DDevice9Ex_SetPixelShader
  | IDirect3DDevice9Ex_SetPixelShaderConstantF | IDirect3DDevice9Ex_SetPixelShaderConstantI
  | IDirect3DDevice9Ex_SetPixelShaderConstantB | IDirect3DDevice9Ex_CreateQuery
  | IDirect3DDevice9Ex_SetConvolutionMonoKernel | IDirect3DDevice9Ex_ComposeRects
  | IDirect3DDevice9Ex_CheckDeviceState | IDirect3DDevice9Ex_CreateRenderTargetEx
  | IDirect3DDevice9Ex_CreateOffscreenPlainSurfaceEx
  | IDirect3DDevice9Ex_CreateDepthStencilSurfaceEx | IDirect3DDevice9Ex_ResetEx
  | IDirect3DDevice9Ex_GetDisplayModeEx | IDirect3DStateBlock9_Destroy
  | IDirect3DStateBlock9_Capture | IDirect3DStateBlock9_Apply | IDirect3DSwapChain9_Destroy
  | IDirect3DSwapChain9_Present | IDirect3DSwapChain9_GetFrontBufferData
  | IDirect3DSwapChain9_GetBackBuffer | IDirect3DResource9_SetPriority
  | IDirect3DResource9_PreLoad | IDirect3DVertexDeclaration9_Destroy
  | IDirect3DVertexShader9_Destroy | IDirect3DPixelShader9_Destroy | IDirect3DBaseTexture9_SetLOD
  | IDirect3DBaseTexture9_SetAutoGenFilterType | IDirect3DBaseTexture9_GenerateMipSubLevels
  | IDirect3DTexture9_Destroy | IDirect3DTexture9_GetLevelDesc | IDirect3DTexture9_GetSurfaceLevel
  | IDirect3DTexture9_AddDirtyRect | IDirect3DVolumeTexture9_Destroy
  | IDirect3DVolumeTexture9_GetLevelDesc | IDirect3DVolumeTexture9_GetVolumeLevel
  | IDirect3DVolumeTexture9_AddDirtyBox | IDirect3DCubeTexture9_Destroy
  | IDirect3DCubeTexture9_GetLevelDesc | IDirect3DCubeTexture9_GetCubeMapSurface
  | IDirect3DCubeTexture9_AddDirtyRect | IDirect3DVertexBuffer9_Destroy
  | IDirect3DVertexBuffer9_Lock | IDirect3DVertexBuffer9_Unlock | IDirect3DVertexBuffer9_GetDesc
  | IDirect3DIndexBuffer9_Destroy | IDirect3DIndexBuffer9_Lock | IDirect3DIndexBuffer9_Unlock
  | IDirect3DIndexBuffer9_GetDesc | IDirect3DSurface9_Destroy | IDirect3DSurface9_GetDesc
  | IDirect3DSurface9_LockRect | IDirect3DSurface9_UnlockRect | IDirect3DVolume9_Destroy
  | IDirect3DVolume9_UnlockBox | IDirect3DQuery9_Destroy | IDirect3DQuery9_Issue
  | IDirect3DQuery9_GetData | IDirect3DDevice9Ex_StateBatch
  deriving DecidableEq, Repr

/-- The enumerators' values, of type `uint16_t`. -/
def D3D9Command.toNat : D3D9Command → Nat
  | .Bridge_Terminate => 65535
  | .Bridge_Invalid => 0
  | .Bridge_Syn => 1
  | .Bridge_Ack => 2
  | .Bridge_Continue => 3
  | .Bridge_Any => 4
  | .Bridge_Response => 5
  | .Bridge_DebugMessage => 6
  | .RemixApi_CreateMaterial => 7
  | .RemixApi_DestroyMaterial => 8
  | .RemixApi_CreateMesh => 9
  | .RemixApi_DestroyMesh => 10
  | .RemixApi_DrawInstance => 11
  | .RemixApi_CreateLight => 12
  | .RemixApi_DestroyLight => 13
  | .RemixApi_DrawLightInstance => 14
  | .RemixApi_SetConfigVariable => 15
  | .Bridge_SharedHeap_AddSeg => 18
  | .Bridge_SharedHeap_Alloc => 19
  | .Bridge_SharedHeap_Dealloc => 20
  | .Bridge_UnlinkResource => 21
  | .Bridge_UnlinkVolumeResource => 22
  | .IDirect3DDevice9Ex_LinkSwapchain => 23
  | .IDirect3DDevice9Ex_LinkBackBuffer => 24
  | .IDirect3DDevice9Ex_LinkAutoDepthStencil => 25
  | .IDirect3D9Ex_Destroy => 28
  | .IDirect3D9Ex_GetAdapterCount => 30
  | .IDirect3D9Ex_GetAdapterIdentifier => 31
  | .IDirect3D9Ex_GetAdapterModeCount => 32
  | .IDirect3D9Ex_EnumAdapterModes => 33
  | .IDirect3D9Ex_GetAdapterDisplayMode => 34
  | .IDirect3D9Ex_CheckDeviceType => 35
  | .IDirect3D9Ex_CheckDeviceFormat => 36
  | .IDirect3D9Ex_CheckDeviceMultiSampleType => 37
  | .IDirect3D9Ex_CheckDepthStencilMatch => 38
  | .IDirect3D9Ex_CheckDeviceFormatConversion => 39
  | .IDirect3D9Ex_GetDeviceCaps => 40
  | .IDirect3D9Ex_GetAdapterMonitor => 41
  | .IDirect3D9Ex_CreateDevice => 42
  | .IDirect3D9Ex_GetAdapterModeCountEx => 43
  | .IDirect3D9Ex_EnumAdapterModesEx => 44
  | .IDirect3D9Ex_GetAdapterDisplayModeEx => 45
  | .IDirect3D9Ex_CreateDeviceEx => 46
  | .IDirect3D9Ex_GetAdapterLUID => 47
  | .IDirect3DDevice9Ex_Destroy => 50
  | .IDirect3DDevice9Ex_GetAvailableTextureMem => 52
  | .IDirect3DDevice9Ex_EvictManagedResources => 53
  | .IDirect3DDevice9Ex_GetDirect3D => 54
  | .IDirect3DDevice9Ex_GetDeviceCaps => 55
  | .IDirect3DDevice9Ex_GetDisplayMode => 56
  | .IDirect3DDevice9Ex_SetCursorProperties => 58
  | .IDirect3DDevice9Ex_SetCursorPosition => 59
  | .IDirect3DDevice9Ex_ShowCursor => 60
  | .IDirect3DDevice9Ex_CreateAdditionalSwapChain => 61
  | .IDirect3DDevice9Ex_GetSwapChain => 62
  | .IDirect3DDevice9Ex_GetNumberOfSwapChains => 63
  | .IDirect3DDevice9Ex_Reset => 64
  | .IDirect3DDevice9Ex_SetDialogBoxMode => 68
  | .IDirect3DDevice9Ex_SetGammaRamp => 69
  | .IDirect3DDevice9Ex_GetGammaRamp => 70
  | .IDirect3DDevice9Ex_CreateTexture => 71
  | .IDirect3DDevice9Ex_CreateVolumeTexture => 72
  | .IDirect3DDevice9Ex_CreateCubeTexture => 73
  | .IDirect3DDevice9Ex_CreateVertexBuffer => 74
  | .IDirect3DDevice9Ex_CreateIndexBuffer => 75
  | .IDirect3DDevice9Ex_CreateRenderTarget => 76
  | .IDirect3DDevice9Ex_CreateDepthStencilSurface => 77
  | .IDirect3DDevice9Ex_UpdateSurface => 78
  | .IDirect3DDevice9Ex_UpdateTexture => 79
  | .IDirect3DDevice9Ex_GetRenderTargetData => 80
  | .IDirect3DDevice9Ex_GetFrontBufferData => 81
  | .IDirect3DDevice9Ex_StretchRect => 82
  | .IDirect3DDevice9Ex_ColorFill => 83
  | .IDirect3DDevice9Ex_CreateOffscreenPlainSurface => 84
  | .IDirect3DDevice9Ex_SetRenderTarget => 85
  | .IDirect3DDevice9Ex_GetRenderTarget => 86
  | .IDirect3DDevice9Ex_SetDepthStencilSurface => 87
  | .IDirect3DDevice9Ex_GetDepthStencilSurface => 88
  | .IDirect3DDevice9Ex_BeginScene => 89
  | .IDirect3DDevice9Ex_EndScene => 90
  | .IDirect3DDevice9Ex_Clear => 91
  | .IDirect3DDevice9Ex_SetTransform => 92
  | .IDirect3DDevice9Ex_SetViewport => 95
  | .IDirect3DDevice9Ex_SetMaterial => 97
  | .IDirect3DDevice9Ex_SetLight => 99
  | .IDirect3DDevice9Ex_LightEnable => 101
  | .IDirect3DDevice9Ex_SetClipPlane => 103
  | .IDirect3DDevice9Ex_SetRenderState => 105
  | .IDirect3DDevice9Ex_CreateStateBlock => 107
  | .IDirect3DDevice9Ex_BeginStateBlock => 108
  | .IDirect3DDevice9Ex_EndStateBlock => 109
  | .IDirect3DDevice9Ex_SetTexture => 113
  | .IDirect3DDevice9Ex_SetTextureStageState => 115
  | .IDirect3DDevice9Ex_SetSamplerState => 117
  | .IDirect3DDevice9Ex_SetScissorRect => 123
  | .IDirect3DDevice9Ex_SetSoftwareVertexProcessing => 125
  | .IDirect3DDevice9Ex_SetNPatchMode => 127
  | .IDirect3DDevice9Ex_DrawPrimitive => 129
  | .IDirect3DDevice9Ex_DrawIndexedPrimitive => 130
  | .IDirect3DDevice9Ex_DrawPrimitiveUP => 131
  | .IDirect3DDevice9Ex_DrawIndexedPrimitiveUP => 132
  | .IDirect3DDevice9Ex_ProcessVertices => 133
  | .IDirect3DDevice9Ex_CreateVertexDeclaration => 134
  | .IDirect3DDevice9Ex_SetVertexDeclaration => 135
  | .IDirect3DDevice9Ex_SetFVF => 137
  | .IDirect3DDevice9Ex_CreateVertexShader => 139
  | .IDirect3DDevice9Ex_SetVertexShader => 140
  | .IDirect3DDevice9Ex_SetVertexShaderConstantF => 142
  | .IDirect3DDevice9Ex_SetVertexShaderConstantI => 144
  | .IDirect3DDevice9Ex_SetVertexShaderConstantB => 146
  | .IDirect3DDevice9Ex_SetStreamSource => 148
  | .IDirect3DDevice9Ex_SetStreamSourceFreq => 150
  | .IDirect3DDevice9Ex_SetIndices => 152
  | .IDirect3DDevice9Ex_CreatePixelShader => 154
  | .IDirect3DDevice9Ex_SetPixelShader => 155
  | .IDirect3DDevice9Ex_SetPixelShaderConstantF => 157
  | .IDirect3DDevice9Ex_SetPixelShaderConstantI => 159
  | .IDirect3DDevice9Ex_SetPixelShaderConstantB => 161
  | .IDirect3DDevice9Ex_CreateQuery => 166
  | .IDirect3DDevice9Ex_SetConvolutionMonoKernel => 167
  | .IDirect3DDevice9Ex_ComposeRects => 168
  | .IDirect3DDevice9Ex_CheckDeviceState => 176
  | .IDirect3DDevice9Ex_CreateRenderTargetEx => 177
  | .IDirect3DDevice9Ex_CreateOffscreenPlainSurfaceEx => 178
  | .IDirect3DDevice9Ex_CreateDepthStencilSurfaceEx => 179
  | .IDirect3DDevice9Ex_ResetEx => 180
  | .IDirect3DDevice9Ex_GetDisplayModeEx => 181
  | .IDirect3DStateBlock9_Destroy => 184
  | .IDirect3DStateBlock9_Capture => 186
  | .IDirect3DStateBlock9_Apply => 187
  | .IDirect3DSwapChain9_Destroy => 190
  | .IDirect3DSwapChain9_Present => 191
  | .IDirect3DSwapChain9_GetFrontBufferData => 192
  | .IDirect3DSwapChain9_GetBackBuffer => 193
  | .IDirect3DResource9_SetPriority => 205
  | .IDirect3DResource9_PreLoad => 207
  | .IDirect3DVertexDeclaration9_Destroy => 211
  | .IDirect3DVertexShader9_Destroy => 216
  | .IDirect3DPixelShader9_Destroy => 221
  | .IDirect3DBaseTexture9_SetLOD => 235
  | .IDirect3DBaseTexture9_SetAutoGenFilterType => 238
  | .IDirect3DBaseTexture9_GenerateMipSubLevels => 240
  | .IDirect3DTexture9_Destroy => 243
  | .IDirect3DTexture9_GetLevelDesc => 258
  | .IDirect3DTexture9_GetSurfaceLevel => 259
  | .IDirect3DTexture9_AddDirtyRect => 262
  | .IDirect3DVolumeTexture9_Destroy => 265
  | .IDirect3DVolumeTexture9_GetLevelDesc => 280
  | .IDirect3DVolumeTexture9_GetVolumeLevel => 281
  | .IDirect3DVolumeTexture9_AddDirtyBox => 284
  | .IDirect3DCubeTexture9_Destroy => 287
  | .IDirect3DCubeTexture9_GetLevelDesc => 302
  | .IDirect3DCubeTexture9_GetCubeMapSurface => 303
  | .IDirect3DCubeTexture9_AddDirtyRect => 306
  | .IDirect3DVertexBuffer9_Destroy => 309
  | .IDirect3DVertexBuffer9_Lock => 318
  | .IDirect3DVertexBuffer9_Unlock => 319
  | .IDirect3DVertexBuffer9_GetDesc => 320
  | .IDirect3DIndexBuffer9_Destroy => 323
  | .IDirect3DIndexBuffer9_Lock => 332
  | .IDirect3DIndexBuffer9_Unlock => 333
  | .IDirect3DIndexBuffer9_GetDesc => 334
  | .IDirect3DSurface9_Destroy => 337
  | .IDirect3DSurface9_GetDesc => 347
  | .IDirect3DSurface9_LockRect => 348
  | .IDirect3DSurface9_UnlockRect => 349
  | .IDirect3DVolume9_Destroy => 354
  | .IDirect3DVolume9_UnlockBox => 362
  | .IDirect3DQuery9_Destroy => 365
  | .IDirect3DQuery9_Issue => 369
  | .IDirect3DQuery9_GetData => 370
  | .IDirect3DDevice9Ex_StateBatch => 371

theorem D3D9Command.toNat_lt (c : D3D9Command) : c.toNat < 2 ^ 16 := by
  cases c <;> decide

/-- `Header`: the command, its flags, the position of the data ring after the command's data, and
the handle of the object the command is about or, in a response, the UID of the request. -/
structure Header where
  command : D3D9Command
  flags : Nat
  dataOffset : Nat
  pHandle : Nat
  deriving DecidableEq, Repr

end RemixBridge
