import RemixBridge.Calls.WireAgreement

/-!
# Calls — ServerResponse

When the server answers a command, and when the client waits for an answer: always, under
`sendAllServerResponses`, or under `sendCreateFunctionServerResponses` as well.  Each side has its
own macros (`util_bridgecommand.h`, `server/main.cpp`), which it is called by once for each command.

* `HResultCall.waits_as_answered`: the two sides have chosen the same macro, command by command.
-/

namespace RemixBridge

/-- The two bridges, each with its own rings. -/
inductive BridgeId where
  | Module | Device
  deriving DecidableEq, Repr

/-- The bridge that a command goes over: that of the device takes its creation too. -/
def D3D9Command.bridge : D3D9Command → BridgeId
  | .IDirect3D9Ex_Destroy | .IDirect3D9Ex_GetAdapterCount | .IDirect3D9Ex_GetAdapterIdentifier
  | .IDirect3D9Ex_GetAdapterModeCount | .IDirect3D9Ex_EnumAdapterModes
  | .IDirect3D9Ex_GetAdapterDisplayMode | .IDirect3D9Ex_CheckDeviceType
  | .IDirect3D9Ex_CheckDeviceFormat | .IDirect3D9Ex_CheckDeviceMultiSampleType
  | .IDirect3D9Ex_CheckDepthStencilMatch | .IDirect3D9Ex_CheckDeviceFormatConversion
  | .IDirect3D9Ex_GetDeviceCaps | .IDirect3D9Ex_GetAdapterMonitor
  | .IDirect3D9Ex_GetAdapterModeCountEx | .IDirect3D9Ex_EnumAdapterModesEx
  | .IDirect3D9Ex_GetAdapterDisplayModeEx | .IDirect3D9Ex_GetAdapterLUID => .Module
  | _ => .Device

/-- The options that the macros read. -/
structure ResponseOptions where
  sendAllServerResponses : Bool
  sendCreateFunctionServerResponses : Bool

/-- The macros that the client waits with (`WAIT_FOR_…`) and the server answers with (`SEND_…`, or a
`ServerMessage` without one). -/
inductive ResponseMacro where
  | SERVER_RESPONSE
  | OPTIONAL_SERVER_RESPONSE
  | OPTIONAL_CREATE_FUNCTION_SERVER_RESPONSE
  deriving DecidableEq, Repr

/-- The condition of a macro. -/
def ResponseMacro.holds (o : ResponseOptions) : ResponseMacro → Bool
  | .SERVER_RESPONSE                          => true
  | .OPTIONAL_SERVER_RESPONSE                 => o.sendAllServerResponses
  | .OPTIONAL_CREATE_FUNCTION_SERVER_RESPONSE =>
      o.sendCreateFunctionServerResponses || o.sendAllServerResponses

/-- The functions of the client that wait for the `HRESULT` of the server's call and for nothing
else. -/
inductive HResultCall where
  | EvictManagedResources | SetCursorProperties | Reset | ResetEx | SetDialogBoxMode
  | UpdateSurface | UpdateTexture | StretchRect | ColorFill | SetRenderTarget | GetRenderTarget
  | SetDepthStencilSurface | GetDepthStencilSurface | BeginScene | EndScene | Clear | SetTransform
  | SetViewport | SetMaterial | SetLight | LightEnable | SetClipPlane | SetRenderState
  | BeginStateBlock | EndStateBlock | SetTexture | SetTextureStageState | SetSamplerState
  | SetScissorRect | SetNPatchMode | DrawPrimitive | DrawIndexedPrimitive | DrawPrimitiveUP
  | DrawIndexedPrimitiveUP | ProcessVertices | SetVertexDeclaration | SetFVF | SetVertexShader
  | SetVertexShaderConstantF | SetVertexShaderConstantI | SetVertexShaderConstantB
  | SetStreamSource | SetStreamSourceFreq | SetIndices | SetPixelShader | SetPixelShaderConstantF
  | SetPixelShaderConstantI | SetPixelShaderConstantB | SetConvolutionMonoKernel | ComposeRects
  | SwapChain9_GetBackBuffer | BaseTexture9_SetAutoGenFilterType | Texture9_AddDirtyRect
  | VolumeTexture9_AddDirtyBox | CubeTexture9_AddDirtyRect | Query9_Issue
  | CreateAdditionalSwapChain | CreateTexture | CreateVolumeTexture | CreateCubeTexture
  | CreateVertexBuffer | CreateIndexBuffer | CreateRenderTarget | CreateDepthStencilSurface
  | CreateOffscreenPlainSurface | CreateStateBlock | CreateVertexDeclaration | CreateVertexShader
  | CreatePixelShader | CreateRenderTargetEx | CreateOffscreenPlainSurfaceEx
  | CreateDepthStencilSurfaceEx
  | SetSoftwareVertexProcessing | CheckDeviceState
  | CheckDeviceType | CheckDeviceFormat | CheckDepthStencilMatch | CheckDeviceFormatConversion
  deriving DecidableEq, Repr

namespace HResultCall

/-- The command that a function sends. -/
def command : HResultCall → D3D9Command
  | .EvictManagedResources             => .IDirect3DDevice9Ex_EvictManagedResources
  | .SetCursorProperties               => .IDirect3DDevice9Ex_SetCursorProperties
  | .Reset                             => .IDirect3DDevice9Ex_Reset
  | .ResetEx                           => .IDirect3DDevice9Ex_ResetEx
  | .SetDialogBoxMode                  => .IDirect3DDevice9Ex_SetDialogBoxMode
  | .UpdateSurface                     => .IDirect3DDevice9Ex_UpdateSurface
  | .UpdateTexture                     => .IDirect3DDevice9Ex_UpdateTexture
  | .StretchRect                       => .IDirect3DDevice9Ex_StretchRect
  | .ColorFill                         => .IDirect3DDevice9Ex_ColorFill
  | .SetRenderTarget                   => .IDirect3DDevice9Ex_SetRenderTarget
  | .GetRenderTarget                   => .IDirect3DDevice9Ex_GetRenderTarget
  | .SetDepthStencilSurface            => .IDirect3DDevice9Ex_SetDepthStencilSurface
  | .GetDepthStencilSurface            => .IDirect3DDevice9Ex_GetDepthStencilSurface
  | .BeginScene                        => .IDirect3DDevice9Ex_BeginScene
  | .EndScene                          => .IDirect3DDevice9Ex_EndScene
  | .Clear                             => .IDirect3DDevice9Ex_Clear
  | .SetTransform                      => .IDirect3DDevice9Ex_SetTransform
  | .SetViewport                       => .IDirect3DDevice9Ex_SetViewport
  | .SetMaterial                       => .IDirect3DDevice9Ex_SetMaterial
  | .SetLight                          => .IDirect3DDevice9Ex_SetLight
  | .LightEnable                       => .IDirect3DDevice9Ex_LightEnable
  | .SetClipPlane                      => .IDirect3DDevice9Ex_SetClipPlane
  | .SetRenderState                    => .IDirect3DDevice9Ex_SetRenderState
  | .BeginStateBlock                   => .IDirect3DDevice9Ex_BeginStateBlock
  | .EndStateBlock                     => .IDirect3DDevice9Ex_EndStateBlock
  | .SetTexture                        => .IDirect3DDevice9Ex_SetTexture
  | .SetTextureStageState              => .IDirect3DDevice9Ex_SetTextureStageState
  | .SetSamplerState                   => .IDirect3DDevice9Ex_SetSamplerState
  | .SetScissorRect                    => .IDirect3DDevice9Ex_SetScissorRect
  | .SetNPatchMode                     => .IDirect3DDevice9Ex_SetNPatchMode
  | .DrawPrimitive                     => .IDirect3DDevice9Ex_DrawPrimitive
  | .DrawIndexedPrimitive              => .IDirect3DDevice9Ex_DrawIndexedPrimitive
  | .DrawPrimitiveUP                   => .IDirect3DDevice9Ex_DrawPrimitiveUP
  | .DrawIndexedPrimitiveUP            => .IDirect3DDevice9Ex_DrawIndexedPrimitiveUP
  | .ProcessVertices                   => .IDirect3DDevice9Ex_ProcessVertices
  | .SetVertexDeclaration              => .IDirect3DDevice9Ex_SetVertexDeclaration
  | .SetFVF                            => .IDirect3DDevice9Ex_SetFVF
  | .SetVertexShader                   => .IDirect3DDevice9Ex_SetVertexShader
  | .SetVertexShaderConstantF          => .IDirect3DDevice9Ex_SetVertexShaderConstantF
  | .SetVertexShaderConstantI          => .IDirect3DDevice9Ex_SetVertexShaderConstantI
  | .SetVertexShaderConstantB          => .IDirect3DDevice9Ex_SetVertexShaderConstantB
  | .SetStreamSource                   => .IDirect3DDevice9Ex_SetStreamSource
  | .SetStreamSourceFreq               => .IDirect3DDevice9Ex_SetStreamSourceFreq
  | .SetIndices                        => .IDirect3DDevice9Ex_SetIndices
  | .SetPixelShader                    => .IDirect3DDevice9Ex_SetPixelShader
  | .SetPixelShaderConstantF           => .IDirect3DDevice9Ex_SetPixelShaderConstantF
  | .SetPixelShaderConstantI           => .IDirect3DDevice9Ex_SetPixelShaderConstantI
  | .SetPixelShaderConstantB           => .IDirect3DDevice9Ex_SetPixelShaderConstantB
  | .SetConvolutionMonoKernel          => .IDirect3DDevice9Ex_SetConvolutionMonoKernel
  | .ComposeRects                      => .IDirect3DDevice9Ex_ComposeRects
  | .SwapChain9_GetBackBuffer          => .IDirect3DSwapChain9_GetBackBuffer
  | .BaseTexture9_SetAutoGenFilterType => .IDirect3DBaseTexture9_SetAutoGenFilterType
  | .Texture9_AddDirtyRect             => .IDirect3DTexture9_AddDirtyRect
  | .VolumeTexture9_AddDirtyBox        => .IDirect3DVolumeTexture9_AddDirtyBox
  | .CubeTexture9_AddDirtyRect         => .IDirect3DCubeTexture9_AddDirtyRect
  | .Query9_Issue                      => .IDirect3DQuery9_Issue
  | .CreateAdditionalSwapChain         => .IDirect3DDevice9Ex_CreateAdditionalSwapChain
  | .CreateTexture                     => .IDirect3DDevice9Ex_CreateTexture
  | .CreateVolumeTexture               => .IDirect3DDevice9Ex_CreateVolumeTexture
  | .CreateCubeTexture                 => .IDirect3DDevice9Ex_CreateCubeTexture
  | .CreateVertexBuffer                => .IDirect3DDevice9Ex_CreateVertexBuffer
  | .CreateIndexBuffer                 => .IDirect3DDevice9Ex_CreateIndexBuffer
  | .CreateRenderTarget                => .IDirect3DDevice9Ex_CreateRenderTarget
  | .CreateDepthStencilSurface         => .IDirect3DDevice9Ex_CreateDepthStencilSurface
  | .CreateOffscreenPlainSurface       => .IDirect3DDevice9Ex_CreateOffscreenPlainSurface
  | .CreateStateBlock                  => .IDirect3DDevice9Ex_CreateStateBlock
  | .CreateVertexDeclaration           => .IDirect3DDevice9Ex_CreateVertexDeclaration
  | .CreateVertexShader                => .IDirect3DDevice9Ex_CreateVertexShader
  | .CreatePixelShader                 => .IDirect3DDevice9Ex_CreatePixelShader
  | .CreateRenderTargetEx              => .IDirect3DDevice9Ex_CreateRenderTargetEx
  | .CreateOffscreenPlainSurfaceEx     => .IDirect3DDevice9Ex_CreateOffscreenPlainSurfaceEx
  | .CreateDepthStencilSurfaceEx       => .IDirect3DDevice9Ex_CreateDepthStencilSurfaceEx
  | .SetSoftwareVertexProcessing       => .IDirect3DDevice9Ex_SetSoftwareVertexProcessing
  | .CheckDeviceState                  => .IDirect3DDevice9Ex_CheckDeviceState
  | .CheckDeviceType                   => .IDirect3D9Ex_CheckDeviceType
  | .CheckDeviceFormat                 => .IDirect3D9Ex_CheckDeviceFormat
  | .CheckDepthStencilMatch            => .IDirect3D9Ex_CheckDepthStencilMatch
  | .CheckDeviceFormatConversion       => .IDirect3D9Ex_CheckDeviceFormatConversion

/-- The macro that a function waits with. -/
def wait : HResultCall → ResponseMacro
  | .CreateAdditionalSwapChain | .CreateTexture | .CreateVolumeTexture | .CreateCubeTexture
  | .CreateVertexBuffer | .CreateIndexBuffer | .CreateRenderTarget | .CreateDepthStencilSurface
  | .CreateOffscreenPlainSurface | .CreateStateBlock | .CreateVertexDeclaration
  | .CreateVertexShader | .CreatePixelShader | .CreateRenderTargetEx
  | .CreateOffscreenPlainSurfaceEx | .CreateDepthStencilSurfaceEx =>
      .OPTIONAL_CREATE_FUNCTION_SERVER_RESPONSE
  | .SetSoftwareVertexProcessing | .CheckDeviceState | .CheckDeviceType | .CheckDeviceFormat
  | .CheckDepthStencilMatch | .CheckDeviceFormatConversion => .SERVER_RESPONSE
  | _ => .OPTIONAL_SERVER_RESPONSE

end HResultCall

/-- What the server's case of a command answers with, if it answers. -/
def respond : D3D9Command → Option ResponseMacro
  | .IDirect3D9Ex_CreateDeviceEx | .IDirect3D9Ex_CreateDevice
  | .IDirect3DDevice9Ex_GetDisplayModeEx | .IDirect3DDevice9Ex_GetAvailableTextureMem
  | .IDirect3DDevice9Ex_GetDeviceCaps | .IDirect3DDevice9Ex_GetDisplayMode
  | .IDirect3DDevice9Ex_ShowCursor | .IDirect3DDevice9Ex_GetRenderTargetData
  | .IDirect3DDevice9Ex_GetFrontBufferData | .IDirect3DDevice9Ex_SetSoftwareVertexProcessing
  | .IDirect3DDevice9Ex_CheckDeviceState | .IDirect3DSwapChain9_GetFrontBufferData
  | .IDirect3DSurface9_LockRect | .IDirect3DQuery9_GetData | .IDirect3D9Ex_GetAdapterCount
  | .IDirect3D9Ex_GetAdapterIdentifier | .IDirect3D9Ex_GetAdapterModeCount
  | .IDirect3D9Ex_EnumAdapterModes | .IDirect3D9Ex_GetAdapterDisplayMode
  | .IDirect3D9Ex_CheckDeviceType | .IDirect3D9Ex_CheckDeviceFormat
  | .IDirect3D9Ex_CheckDeviceMultiSampleType | .IDirect3D9Ex_CheckDepthStencilMatch
  | .IDirect3D9Ex_CheckDeviceFormatConversion | .IDirect3D9Ex_GetDeviceCaps
  | .IDirect3D9Ex_GetAdapterMonitor | .IDirect3D9Ex_GetAdapterModeCountEx
  | .IDirect3D9Ex_GetAdapterLUID | .IDirect3D9Ex_EnumAdapterModesEx
  | .IDirect3D9Ex_GetAdapterDisplayModeEx =>
      some .SERVER_RESPONSE
  | .IDirect3DDevice9Ex_EvictManagedResources | .IDirect3DDevice9Ex_SetCursorProperties
  | .IDirect3DDevice9Ex_Reset | .IDirect3DDevice9Ex_ResetEx | .IDirect3DDevice9Ex_SetDialogBoxMode
  | .IDirect3DDevice9Ex_UpdateSurface | .IDirect3DDevice9Ex_UpdateTexture
  | .IDirect3DDevice9Ex_StretchRect | .IDirect3DDevice9Ex_ColorFill
  | .IDirect3DDevice9Ex_SetRenderTarget | .IDirect3DDevice9Ex_GetRenderTarget
  | .IDirect3DDevice9Ex_SetDepthStencilSurface | .IDirect3DDevice9Ex_GetDepthStencilSurface
  | .IDirect3DDevice9Ex_BeginScene | .IDirect3DDevice9Ex_EndScene | .IDirect3DDevice9Ex_Clear
  | .IDirect3DDevice9Ex_SetTransform | .IDirect3DDevice9Ex_SetViewport
  | .IDirect3DDevice9Ex_SetMaterial | .IDirect3DDevice9Ex_SetLight
  | .IDirect3DDevice9Ex_LightEnable | .IDirect3DDevice9Ex_SetClipPlane
  | .IDirect3DDevice9Ex_SetRenderState | .IDirect3DDevice9Ex_BeginStateBlock
  | .IDirect3DDevice9Ex_EndStateBlock | .IDirect3DDevice9Ex_SetTexture
  | .IDirect3DDevice9Ex_SetTextureStageState | .IDirect3DDevice9Ex_SetSamplerState
  | .IDirect3DDevice9Ex_SetScissorRect | .IDirect3DDevice9Ex_SetNPatchMode
  | .IDirect3DDevice9Ex_DrawPrimitive | .IDirect3DDevice9Ex_DrawIndexedPrimitive
  | .IDirect3DDevice9Ex_DrawPrimitiveUP | .IDirect3DDevice9Ex_DrawIndexedPrimitiveUP
  | .IDirect3DDevice9Ex_ProcessVertices | .IDirect3DDevice9Ex_SetVertexDeclaration
  | .IDirect3DDevice9Ex_SetFVF | .IDirect3DDevice9Ex_SetVertexShader
  | .IDirect3DDevice9Ex_SetVertexShaderConstantF | .IDirect3DDevice9Ex_SetVertexShaderConstantI
  | .IDirect3DDevice9Ex_SetVertexShaderConstantB | .IDirect3DDevice9Ex_SetStreamSource
  | .IDirect3DDevice9Ex_SetStreamSourceFreq | .IDirect3DDevice9Ex_SetIndices
  | .IDirect3DDevice9Ex_SetPixelShader | .IDirect3DDevice9Ex_SetPixelShaderConstantF
  | .IDirect3DDevice9Ex_SetPixelShaderConstantI | .IDirect3DDevice9Ex_SetPixelShaderConstantB
  | .IDirect3DDevice9Ex_SetConvolutionMonoKernel | .IDirect3DDevice9Ex_ComposeRects
  | .IDirect3DSwapChain9_GetBackBuffer | .IDirect3DBaseTexture9_SetAutoGenFilterType
  | .IDirect3DTexture9_AddDirtyRect | .IDirect3DVolumeTexture9_AddDirtyBox
  | .IDirect3DCubeTexture9_AddDirtyRect | .IDirect3DQuery9_Issue =>
      some .OPTIONAL_SERVER_RESPONSE
  | .IDirect3DDevice9Ex_CreateRenderTargetEx | .IDirect3DDevice9Ex_CreateOffscreenPlainSurfaceEx
  | .IDirect3DDevice9Ex_CreateDepthStencilSurfaceEx
  | .IDirect3DDevice9Ex_CreateAdditionalSwapChain | .IDirect3DDevice9Ex_CreateTexture
  | .IDirect3DDevice9Ex_CreateVolumeTexture | .IDirect3DDevice9Ex_CreateCubeTexture
  | .IDirect3DDevice9Ex_CreateVertexBuffer | .IDirect3DDevice9Ex_CreateIndexBuffer
  | .IDirect3DDevice9Ex_CreateRenderTarget | .IDirect3DDevice9Ex_CreateDepthStencilSurface
  | .IDirect3DDevice9Ex_CreateOffscreenPlainSurface | .IDirect3DDevice9Ex_CreateStateBlock
  | .IDirect3DDevice9Ex_CreateVertexDeclaration | .IDirect3DDevice9Ex_CreateVertexShader
  | .IDirect3DDevice9Ex_CreatePixelShader =>
      some .OPTIONAL_CREATE_FUNCTION_SERVER_RESPONSE
  | _ => none

theorem HResultCall.waits_as_answered (f : HResultCall) : respond f.command = some f.wait := by
  cases f <;> rfl

end RemixBridge
