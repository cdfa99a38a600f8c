import N64Emu.Core.Basic
import N64Emu.Core.Mappings
import N64Emu.Core.PiDma
import N64Emu.Core.RetroMemoryMap
import N64Emu.Core.Compose
import N64Emu.Frontend.CString
import N64Emu.Frontend.ListDirectory
import N64Emu.Frontend.FileManager
import N64Emu.Frontend.ChangeDirectory
import N64Emu.Frontend.Session
import N64Emu.Frontend.Main
import N64Emu.Frontend.Variables
import N64Emu.Frontend.Environment
import N64Emu.Frontend.Emulator
import N64Emu.Frontend.FormatSize
import N64Emu.Frontend.Program
