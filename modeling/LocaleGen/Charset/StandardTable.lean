/-!
# Encodings of one byte for each character

A `ByteTable` lists the characters of an encoding by their numbers, four hexadecimal digits for
each: those of all bytes, or only of the bytes from 80 on where the others are ASCII. `FFFD` stands
where a byte has none.
-/

namespace LocaleGen.Charset

/-- An encoding of one byte for each character. -/
structure ByteTable where
  /-- The names of the encoding, in small letters and with low lines between their parts. -/
  names : List String
  rows : List String

/-- The parts of the standard for eight bits, but the first one. -/
def standardTables : List ByteTable :=
  [⟨["iso8859_2", "csisolatin2", "iso_8859_2", "iso_8859_2_1987", "iso_ir_101", "l2", "latin2"],
     ["0080008100820083008400850086008700880089008A008B008C008D008E008F00900091009200930094009500960097",
      "00980099009A009B009C009D009E009F00A0010402D8014100A4013D015A00A700A80160015E0164017900AD017D017B",
      "00B0010502DB014200B4013E015B02C700B80161015F0165017A02DD017E017C015400C100C2010200C40139010600C7",
      "010C00C9011800CB011A00CD00CE010E01100143014700D300D4015000D600D70158016E00DA017000DC00DD016200DF",
      "015500E100E2010300E4013A010700E7010D00E9011900EB011B00ED00EE010F01110144014800F300F4015100F600F7",
      "0159016F00FA017100FC00FD016302D9"]⟩,
   ⟨["iso8859_3", "csisolatin3", "iso_8859_3", "iso_8859_3_1988", "iso_ir_109", "l3", "latin3"],
     ["0080008100820083008400850086008700880089008A008B008C008D008E008F00900091009200930094009500960097",
      "00980099009A009B009C009D009E009F00A0012602D800A300A4FFFD012400A700A80130015E011E013400ADFFFD017B",
      "00B0012700B200B300B400B5012500B700B80131015F011F013500BDFFFD017C00C000C100C2FFFD00C4010A010800C7",
      "00C800C900CA00CB00CC00CD00CE00CFFFFD00D100D200D300D4012000D600D7011C00D900DA00DB00DC016C015C00DF",
      "00E000E100E2FFFD00E4010B010900E700E800E900EA00EB00EC00ED00EE00EFFFFD00F100F200F300F4012100F600F7",
      "011D00F900FA00FB00FC016D015D02D9"]⟩,
   ⟨["iso8859_4", "csisolatin4", "iso_8859_4", "iso_8859_4_1988", "iso_ir_110", "l4", "latin4"],
     ["0080008100820083008400850086008700880089008A008B008C008D008E008F00900091009200930094009500960097",
      "00980099009A009B009C009D009E009F00A001040138015600A40128013B00A700A8016001120122016600AD017D00AF",
      "00B0010502DB015700B40129013C02C700B80161011301230167014A017E014B010000C100C200C300C400C500C6012E",
      "010C00C9011800CB011600CD00CE012A01100145014C013600D400D500D600D700D8017200DA00DB00DC0168016A00DF",
      "010100E100E200E300E400E500E6012F010D00E9011900EB011700ED00EE012B01110146014D013700F400F500F600F7",
      "00F8017300FA00FB00FC0169016B02D9"]⟩,
   ⟨["iso8859_5", "csisolatincyrillic", "cyrillic", "iso_8859_5", "iso_8859_5_1988", "iso_ir_144"],
     ["0080008100820083008400850086008700880089008A008B008C008D008E008F00900091009200930094009500960097",
      "00980099009A009B009C009D009E009F00A0040104020403040404050406040704080409040A040B040C00AD040E040F",
      "0410041104120413041404150416041704180419041A041B041C041D041E041F04200421042204230424042504260427",
      "04280429042A042B042C042D042E042F0430043104320433043404350436043704380439043A043B043C043D043E043F",
      "0440044104420443044404450446044704480449044A044B044C044D044E044F21160451045204530454045504560457",
      "04580459045A045B045C00A7045E045F"]⟩,
   ⟨["iso8859_6", "arabic", "asmo_708", "csisolatinarabic", "ecma_114", "iso_8859_6", "iso_8859_6_1987",
     "iso_ir_127"],
     ["0080008100820083008400850086008700880089008A008B008C008D008E008F00900091009200930094009500960097",
      "00980099009A009B009C009D009E009F00A0FFFDFFFDFFFD00A4FFFDFFFDFFFDFFFDFFFDFFFDFFFD060C00ADFFFDFFFD",
      "FFFDFFFDFFFDFFFDFFFDFFFDFFFDFFFDFFFDFFFDFFFD061BFFFDFFFDFFFD061FFFFD0621062206230624062506260627",
      "06280629062A062B062C062D062E062F0630063106320633063406350636063706380639063AFFFDFFFDFFFDFFFDFFFD",
      "0640064106420643064406450646064706480649064A064B064C064D064E064F065006510652FFFDFFFDFFFDFFFDFFFD",
      "FFFDFFFDFFFDFFFDFFFDFFFDFFFDFFFD"]⟩,
   ⟨["iso8859_7", "csisolatingreek", "ecma_118", "elot_928", "greek", "greek8", "iso_8859_7",
     "iso_8859_7_1987", "iso_ir_126"],
     ["0080008100820083008400850086008700880089008A008B008C008D008E008F00900091009200930094009500960097",
      "00980099009A009B009C009D009E009F00A02018201900A320AC20AF00A600A700A800A9037A00AB00AC00ADFFFD2015",
      "00B000B100B200B303840385038600B703880389038A00BB038C00BD038E038F03900391039203930394039503960397",
      "03980399039A039B039C039D039E039F03A003A1FFFD03A303A403A503A603A703A803A903AA03AB03AC03AD03AE03AF",
      "03B003B103B203B303B403B503B603B703B803B903BA03BB03BC03BD03BE03BF03C003C103C203C303C403C503C603C7",
      "03C803C903CA03CB03CC03CD03CEFFFD"]⟩,
   ⟨["iso8859_8", "csisolatinhebrew", "hebrew", "iso_8859_8", "iso_8859_8_1988", "iso_ir_138"],
     ["0080008100820083008400850086008700880089008A008B008C008D008E008F00900091009200930094009500960097",
      "00980099009A009B009C009D009E009F00A0FFFD00A200A300A400A500A600A700A800A900D700AB00AC00AD00AE00AF",
      "00B000B100B200B300B400B500B600B700B800B900F700BB00BC00BD00BEFFFDFFFDFFFDFFFDFFFDFFFDFFFDFFFDFFFD",
      "FFFDFFFDFFFDFFFDFFFDFFFDFFFDFFFDFFFDFFFDFFFDFFFDFFFDFFFDFFFDFFFDFFFDFFFDFFFDFFFDFFFDFFFDFFFD2017",
      "05D005D105D205D305D405D505D605D705D805D905DA05DB05DC05DD05DE05DF05E005E105E205E305E405E505E605E7",
      "05E805E905EAFFFDFFFD200E200FFFFD"]⟩,
   ⟨["iso8859_9", "csisolatin5", "iso_8859_9", "iso_8859_9_1989", "iso_ir_148", "l5", "latin5"],
     ["0080008100820083008400850086008700880089008A008B008C008D008E008F00900091009200930094009500960097",
      "00980099009A009B009C009D009E009F00A000A100A200A300A400A500A600A700A800A900AA00AB00AC00AD00AE00AF",
      "00B000B100B200B300B400B500B600B700B800B900BA00BB00BC00BD00BE00BF00C000C100C200C300C400C500C600C7",
      "00C800C900CA00CB00CC00CD00CE00CF011E00D100D200D300D400D500D600D700D800D900DA00DB00DC0130015E00DF",
      "00E000E100E200E300E400E500E600E700E800E900EA00EB00EC00ED00EE00EF011F00F100F200F300F400F500F600F7",
      "00F800F900FA00FB00FC0131015F00FF"]⟩,
   ⟨["iso8859_10", "csisolatin6", "iso_8859_10", "iso_8859_10_1992", "iso_ir_157", "l6", "latin6"],
     ["0080008100820083008400850086008700880089008A008B008C008D008E008F00900091009200930094009500960097",
      "00980099009A009B009C009D009E009F00A0010401120122012A0128013600A7013B011001600166017D00AD016A014A",
      "00B0010501130123012B0129013700B7013C011101610167017E2015016B014B010000C100C200C300C400C500C6012E",
      "010C00C9011800CB011600CD00CE00CF00D00145014C00D300D400D500D6016800D8017200DA00DB00DC00DD00DE00DF",
      "010100E100E200E300E400E500E6012F010D00E9011900EB011700ED00EE00EF00F00146014D00F300F400F500F60169",
      "00F8017300FA00FB00FC00FD00FE0138"]⟩,
   ⟨["iso8859_11", "iso_8859_11", "iso_8859_11_2001", "thai"],
     ["0080008100820083008400850086008700880089008A008B008C008D008E008F00900091009200930094009500960097",
      "00980099009A009B009C009D009E009F00A00E010E020E030E040E050E060E070E080E090E0A0E0B0E0C0E0D0E0E0E0F",
      "0E100E110E120E130E140E150E160E170E180E190E1A0E1B0E1C0E1D0E1E0E1F0E200E210E220E230E240E250E260E27",
      "0E280E290E2A0E2B0E2C0E2D0E2E0E2F0E300E310E320E330E340E350E360E370E380E390E3AFFFDFFFDFFFDFFFD0E3F",
      "0E400E410E420E430E440E450E460E470E480E490E4A0E4B0E4C0E4D0E4E0E4F0E500E510E520E530E540E550E560E57",
      "0E580E590E5A0E5BFFFDFFFDFFFDFFFD"]⟩,
   ⟨["iso8859_13", "iso_8859_13", "l7", "latin7"],
     ["0080008100820083008400850086008700880089008A008B008C008D008E008F00900091009200930094009500960097",
      "00980099009A009B009C009D009E009F00A0201D00A200A300A4201E00A600A700D800A9015600AB00AC00AD00AE00C6",
      "00B000B100B200B3201C00B500B600B700F800B9015700BB00BC00BD00BE00E60104012E0100010600C400C501180112",
      "010C00C90179011601220136012A013B01600143014500D3014C00D500D600D701720141015A016A00DC017B017D00DF",
      "0105012F0101010700E400E501190113010D00E9017A011701230137012B013C01610144014600F3014D00F500F600F7",
      "01730142015B016B00FC017C017E2019"]⟩,
   ⟨["iso8859_14", "iso_8859_14", "iso_8859_14_1998", "iso_celtic", "iso_ir_199", "l8", "latin8"],
     ["0080008100820083008400850086008700880089008A008B008C008D008E008F00900091009200930094009500960097",
      "00980099009A009B009C009D009E009F00A01E021E0300A3010A010B1E0A00A71E8000A91E821E0B1EF200AD00AE0178",
      "1E1E1E1F012001211E401E4100B61E561E811E571E831E601EF31E841E851E6100C000C100C200C300C400C500C600C7",
      "00C800C900CA00CB00CC00CD00CE00CF017400D100D200D300D400D500D61E6A00D800D900DA00DB00DC00DD017600DF",
      "00E000E100E200E300E400E500E600E700E800E900EA00EB00EC00ED00EE00EF017500F100F200F300F400F500F61E6B",
      "00F800F900FA00FB00FC00FD017700FF"]⟩,
   ⟨["iso8859_15", "iso_8859_15", "l9", "latin9"],
     ["0080008100820083008400850086008700880089008A008B008C008D008E008F00900091009200930094009500960097",
      "00980099009A009B009C009D009E009F00A000A100A200A320AC00A5016000A7016100A900AA00AB00AC00AD00AE00AF",
      "00B000B100B200B3017D00B500B600B7017E00B900BA00BB01520153017800BF00C000C100C200C300C400C500C600C7",
      "00C800C900CA00CB00CC00CD00CE00CF00D000D100D200D300D400D500D600D700D800D900DA00DB00DC00DD00DE00DF",
      "00E000E100E200E300E400E500E600E700E800E900EA00EB00EC00ED00EE00EF00F000F100F200F300F400F500F600F7",
      "00F800F900FA00FB00FC00FD00FE00FF"]⟩,
   ⟨["iso8859_16", "iso_8859_16", "iso_8859_16_2001", "iso_ir_226", "l10", "latin10"],
     ["0080008100820083008400850086008700880089008A008B008C008D008E008F00900091009200930094009500960097",
      "00980099009A009B009C009D009E009F00A001040105014120AC201E016000A7016100A9021800AB017900AD017A017B",
      "00B000B1010C0142017D201D00B600B7017E010D021900BB015201530178017C00C000C100C2010200C4010600C600C7",
      "00C800C900CA00CB00CC00CD00CE00CF0110014300D200D300D4015000D6015A017000D900DA00DB00DC0118021A00DF",
      "00E000E100E2010300E4010700E600E700E800E900EA00EB00EC00ED00EE00EF0111014400F200F300F4015100F6015B",
      "017100F900FA00FB00FC0119021B00FF"]⟩]

/-- The code pages of graphical systems. -/
def windowsTables : List ByteTable :=
  [⟨["cp1250", "1250", "windows_1250"],
     ["20ACFFFD201AFFFD201E202620202021FFFD203001602039015A0164017D0179FFFD20182019201C201D202220132014",
      "FFFD21220161203A015B0165017E017A00A002C702D8014100A4010400A600A700A800A9015E00AB00AC00AD00AE017B",
      "00B000B102DB014200B400B500B600B700B80105015F00BB013D02DD013E017C015400C100C2010200C40139010600C7",
      "010C00C9011800CB011A00CD00CE010E01100143014700D300D4015000D600D70158016E00DA017000DC00DD016200DF",
      "015500E100E2010300E4013A010700E7010D00E9011900EB011B00ED00EE010F01110144014800F300F4015100F600F7",
      "0159016F00FA017100FC00FD016302D9"]⟩,
   ⟨["cp1251", "1251", "windows_1251"],
     ["04020403201A0453201E20262020202120AC203004092039040A040C040B040F045220182019201C201D202220132014",
      "FFFD21220459203A045A045C045B045F00A0040E045E040800A4049000A600A7040100A9040400AB00AC00AD00AE0407",
      "00B000B104060456049100B500B600B704512116045400BB045804050455045704100411041204130414041504160417",
      "04180419041A041B041C041D041E041F0420042104220423042404250426042704280429042A042B042C042D042E042F",
      "0430043104320433043404350436043704380439043A043B043C043D043E043F04400441044204430444044504460447",
      "04480449044A044B044C044D044E044F"]⟩,
   ⟨["cp1252", "1252", "windows_1252"],
     ["20ACFFFD201A0192201E20262020202102C62030016020390152FFFD017DFFFDFFFD20182019201C201D202220132014",
      "02DC21220161203A0153FFFD017E017800A000A100A200A300A400A500A600A700A800A900AA00AB00AC00AD00AE00AF",
      "00B000B100B200B300B400B500B600B700B800B900BA00BB00BC00BD00BE00BF00C000C100C200C300C400C500C600C7",
      "00C800C900CA00CB00CC00CD00CE00CF00D000D100D200D300D400D500D600D700D800D900DA00DB00DC00DD00DE00DF",
      "00E000E100E200E300E400E500E600E700E800E900EA00EB00EC00ED00EE00EF00F000F100F200F300F400F500F600F7",
      "00F800F900FA00FB00FC00FD00FE00FF"]⟩,
   ⟨["cp1253", "1253", "windows_1253"],
     ["20ACFFFD201A0192201E202620202021FFFD2030FFFD2039FFFDFFFDFFFDFFFDFFFD20182019201C201D202220132014",
      "FFFD2122FFFD203AFFFDFFFDFFFDFFFD00A00385038600A300A400A500A600A700A800A9FFFD00AB00AC00AD00AE2015",
      "00B000B100B200B3038400B500B600B703880389038A00BB038C00BD038E038F03900391039203930394039503960397",
      "03980399039A039B039C039D039E039F03A003A1FFFD03A303A403A503A603A703A803A903AA03AB03AC03AD03AE03AF",
      "03B003B103B203B303B403B503B603B703B803B903BA03BB03BC03BD03BE03BF03C003C103C203C303C403C503C603C7",
      "03C803C903CA03CB03CC03CD03CEFFFD"]⟩,
   ⟨["cp1254", "1254", "windows_1254"],
     ["20ACFFFD201A0192201E20262020202102C62030016020390152FFFDFFFDFFFDFFFD20182019201C201D202220132014",
      "02DC21220161203A0153FFFDFFFD017800A000A100A200A300A400A500A600A700A800A900AA00AB00AC00AD00AE00AF",
      "00B000B100B200B300B400B500B600B700B800B900BA00BB00BC00BD00BE00BF00C000C100C200C300C400C500C600C7",
      "00C800C900CA00CB00CC00CD00CE00CF011E00D100D200D300D400D500D600D700D800D900DA00DB00DC0130015E00DF",
      "00E000E100E200E300E400E500E600E700E800E900EA00EB00EC00ED00EE00EF011F00F100F200F300F400F500F600F7",
      "00F800F900FA00FB00FC0131015F00FF"]⟩,
   ⟨["cp1255", "1255", "windows_1255"],
     ["20ACFFFD201A0192201E20262020202102C62030FFFD2039FFFDFFFDFFFDFFFDFFFD20182019201C201D202220132014",
      "02DC2122FFFD203AFFFDFFFDFFFDFFFD00A000A100A200A320AA00A500A600A700A800A900D700AB00AC00AD00AE00AF",
      "00B000B100B200B300B400B500B600B700B800B900F700BB00BC00BD00BE00BF05B005B105B205B305B405B505B605B7",
      "05B805B9FFFD05BB05BC05BD05BE05BF05C005C105C205C305F005F105F205F305F4FFFDFFFDFFFDFFFDFFFDFFFDFFFD",
      "05D005D105D205D305D405D505D605D705D805D905DA05DB05DC05DD05DE05DF05E005E105E205E305E405E505E605E7",
      "05E805E905EAFFFDFFFD200E200FFFFD"]⟩,
   ⟨["cp1256", "1256", "windows_1256"],
     ["20AC067E201A0192201E20262020202102C6203006792039015206860698068806AF20182019201C201D202220132014",
      "06A921220691203A0153200C200D06BA00A0060C00A200A300A400A500A600A700A800A906BE00AB00AC00AD00AE00AF",
      "00B000B100B200B300B400B500B600B700B800B9061B00BB00BC00BD00BE061F06C10621062206230624062506260627",
      "06280629062A062B062C062D062E062F063006310632063306340635063600D7063706380639063A0640064106420643",
      "00E0064400E2064506460647064800E700E800E900EA00EB0649064A00EE00EF064B064C064D064E00F4064F065000F7",
      "065100F9065200FB00FC200E200F06D2"]⟩,
   ⟨["cp1257", "1257", "windows_1257"],
     ["20ACFFFD201AFFFD201E202620202021FFFD2030FFFD2039FFFD00A802C700B8FFFD20182019201C201D202220132014",
      "FFFD2122FFFD203AFFFD00AF02DBFFFD00A0FFFD00A200A300A4FFFD00A600A700D800A9015600AB00AC00AD00AE00C6",
      "00B000B100B200B300B400B500B600B700F800B9015700BB00BC00BD00BE00E60104012E0100010600C400C501180112",
      "010C00C90179011601220136012A013B01600143014500D3014C00D500D600D701720141015A016A00DC017B017D00DF",
      "0105012F0101010700E400E501190113010D00E9017A011701230137012B013C01610144014600F3014D00F500F600F7",
      "01730142015B016B00FC017C017E02D9"]⟩,
   ⟨["cp1258", "1258", "windows_1258"],
     ["20ACFFFD201A0192201E20262020202102C62030FFFD20390152FFFDFFFDFFFDFFFD20182019201C201D202220132014",
      "02DC2122FFFD203A0153FFFDFFFD017800A000A100A200A300A400A500A600A700A800A900AA00AB00AC00AD00AE00AF",
      "00B000B100B200B300B400B500B600B700B800B900BA00BB00BC00BD00BE00BF00C000C100C2010200C400C500C600C7",
      "00C800C900CA00CB030000CD00CE00CF011000D1030900D300D401A000D600D700D800D900DA00DB00DC01AF030300DF",
      "00E000E100E2010300E400E500E600E700E800E900EA00EB030100ED00EE00EF011100F1032300F300F401A100F600F7",
      "00F800F900FA00FB00FC01B020AB00FF"]⟩]

end LocaleGen.Charset
