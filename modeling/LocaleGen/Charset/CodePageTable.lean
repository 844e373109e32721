import LocaleGen.Charset.StandardTable

/-!
# Code pages

Encodings of one byte for each character that consoles and mainframes use.
-/

namespace LocaleGen.Charset

def consoleTables : List ByteTable :=
  [⟨["cp437", "437", "cspc8codepage437", "ibm437"],
     ["00C700FC00E900E200E400E000E500E700EA00EB00E800EF00EE00EC00C400C500C900E600C600F400F600F200FB00F9",
      "00FF00D600DC00A200A300A520A7019200E100ED00F300FA00F100D100AA00BA00BF231000AC00BD00BC00A100AB00BB",
      "259125922593250225242561256225562555256325512557255D255C255B251025142534252C251C2500253C255E255F",
      "255A25542569256625602550256C25672568256425652559255825522553256B256A2518250C25882584258C25902580",
      "03B100DF039303C003A303C300B503C403A6039803A903B4221E03C603B52229226100B1226522642320232100F72248",
      "00B0221900B7221A207F00B225A000A0"]⟩,
   ⟨["cp720"],
     ["0080008100E900E2008400E0008600E700EA00EB00E800EF00EE008D008E008F00900651065200F400A4064000FB00F9",
      "062106220623062400A306250626062706280629062A062B062C062D062E062F06300631063206330634063500AB00BB",
      "259125922593250225242561256225562555256325512557255D255C255B251025142534252C251C2500253C255E255F",
      "255A25542569256625602550256C25672568256425652559255825522553256B256A2518250C25882584258C25902580",
      "0636063706380639063A064100B506420643064406450646064706480649064A2261064B064C064D064E064F06502248",
      "00B0221900B7221A207F00B225A000A0"]⟩,
   ⟨["cp737"],
     ["039103920393039403950396039703980399039A039B039C039D039E039F03A003A103A303A403A503A603A703A803A9",
      "03B103B203B303B403B503B603B703B803B903BA03BB03BC03BD03BE03BF03C003C103C303C203C403C503C603C703C8",
      "259125922593250225242561256225562555256325512557255D255C255B251025142534252C251C2500253C255E255F",
      "255A25542569256625602550256C25672568256425652559255825522553256B256A2518250C25882584258C25902580",
      "03C903AC03AD03AE03CA03AF03CC03CD03CB03CE038603880389038A038C038E038F00B12265226403AA03AB00F72248",
      "00B0221900B7221A207F00B225A000A0"]⟩,
   ⟨["cp775", "775", "cspc775baltic", "ibm775"],
     ["010600FC00E9010100E4012300E501070142011301560157012B017900C400C500C900E600C6014D00F6012200A2015A",
      "015B00D600DC00F800A300D800D700A40100012A00F3017B017C017A201D00A600A900AE00AC00BD00BC014100AB00BB",
      "259125922593250225240104010C01180116256325512557255D012E0160251025142534252C251C2500253C0172016A",
      "255A25542569256625602550256C017D0105010D01190117012F01610173016B017E2518250C25882584258C25902580",
      "00D300DF014C014300F500D500B5014401360137013B013C014601120145201900AD00B1201C00BE00B600A700F7201E",
      "00B0221900B700B900B300B225A000A0"]⟩,
   ⟨["cp850", "850", "cspc850multilingual", "ibm850"],
     ["00C700FC00E900E200E400E000E500E700EA00EB00E800EF00EE00EC00C400C500C900E600C600F400F600F200FB00F9",
      "00FF00D600DC00F800A300D800D7019200E100ED00F300FA00F100D100AA00BA00BF00AE00AC00BD00BC00A100AB00BB",
      "2591259225932502252400C100C200C000A9256325512557255D00A200A5251025142534252C251C2500253C00E300C3",
      "255A25542569256625602550256C00A400F000D000CA00CB00C8013100CD00CE00CF2518250C2588258400A600CC2580",
      "00D300DF00D400D200F500D500B500FE00DE00DA00DB00D900FD00DD00AF00B400AD00B1201700BE00B600A700F700B8",
      "00B000A800B700B900B300B225A000A0"]⟩,
   ⟨["cp852", "852", "cspcp852", "ibm852"],
     ["00C700FC00E900E200E4016F010700E7014200EB0150015100EE017900C4010600C90139013A00F400F6013D013E015A",
      "015B00D600DC01640165014100D7010D00E100ED00F300FA01040105017D017E0118011900AC017A010C015F00AB00BB",
      "2591259225932502252400C100C2011A015E256325512557255D017B017C251025142534252C251C2500253C01020103",
      "255A25542569256625602550256C00A401110110010E00CB010F014700CD00CE011B2518250C258825840162016E2580",
      "00D300DF00D401430144014801600161015400DA0155017000FD00DD016300B400AD02DD02DB02C702D800A700F700B8",
      "00B000A802D901710158015925A000A0"]⟩,
   ⟨["cp855", "855", "csibm855", "ibm855"],
     ["045204020453040304510401045404040455040504560406045704070458040804590409045A040A045B040B045C040C",
      "045E040E045F040F044E042E044A042A0430041004310411044604260434041404350415044404240433041300AB00BB",
      "259125922593250225240445042504380418256325512557255D04390419251025142534252C251C2500253C043A041A",
      "255A25542569256625602550256C00A4043B041B043C041C043D041D043E041E043F2518250C25882584041F044F2580",
      "042F044004200441042104420422044304230436041604320412044C042C211600AD044B042B0437041704480428044D",
      "042D044904290447042700A725A000A0"]⟩,
   ⟨["cp856"],
     ["05D005D105D205D305D405D505D605D705D805D905DA05DB05DC05DD05DE05DF05E005E105E205E305E405E505E605E7",
      "05E805E905EAFFFD00A3FFFD00D7FFFDFFFDFFFDFFFDFFFDFFFDFFFDFFFDFFFDFFFD00AE00AC00BD00BCFFFD00AB00BB",
      "25912592259325022524FFFDFFFDFFFD00A9256325512557255D00A200A5251025142534252C251C2500253CFFFDFFFD",
      "255A25542569256625602550256C00A4FFFDFFFDFFFDFFFDFFFDFFFDFFFDFFFDFFFD2518250C2588258400A6FFFD2580",
      "FFFDFFFDFFFDFFFDFFFDFFFD00B5FFFDFFFDFFFDFFFDFFFDFFFDFFFD00AF00B400AD00B1201700BE00B600A700F700B8",
      "00B000A800B700B900B300B225A000A0"]⟩,
   ⟨["cp857", "857", "csibm857", "ibm857"],
     ["00C700FC00E900E200E400E000E500E700EA00EB00E800EF00EE013100C400C500C900E600C600F400F600F200FB00F9",
      "013000D600DC00F800A300D8015E015F00E100ED00F300FA00F100D1011E011F00BF00AE00AC00BD00BC00A100AB00BB",
      "2591259225932502252400C100C200C000A9256325512557255D00A200A5251025142534252C251C2500253C00E300C3",
      "255A25542569256625602550256C00A400BA00AA00CA00CB00C8FFFD00CD00CE00CF2518250C2588258400A600CC2580",
      "00D300DF00D400D200F500D500B5FFFD00D700DA00DB00D900EC00FF00AF00B400AD00B1FFFD00BE00B600A700F700B8",
      "00B000A800B700B900B300B225A000A0"]⟩,
   ⟨["cp858", "858", "csibm858", "ibm858"],
     ["00C700FC00E900E200E400E000E500E700EA00EB00E800EF00EE00EC00C400C500C900E600C600F400F600F200FB00F9",
      "00FF00D600DC00F800A300D800D7019200E100ED00F300FA00F100D100AA00BA00BF00AE00AC00BD00BC00A100AB00BB",
      "2591259225932502252400C100C200C000A9256325512557255D00A200A5251025142534252C251C2500253C00E300C3",
      "255A25542569256625602550256C00A400F000D000CA00CB00C820AC00CD00CE00CF2518250C2588258400A600CC2580",
      "00D300DF00D400D200F500D500B500FE00DE00DA00DB00D900FD00DD00AF00B400AD00B1201700BE00B600A700F700B8",
      "00B000A800B700B900B300B225A000A0"]⟩,
   ⟨["cp860", "860", "csibm860", "ibm860"],
     ["00C700FC00E900E200E300E000C100E700EA00CA00E800CD00D400EC00C300C200C900C000C800F400F500F200DA00F9",
      "00CC00D500DC00A200A300D920A700D300E100ED00F300FA00F100D100AA00BA00BF00D200AC00BD00BC00A100AB00BB",
      "259125922593250225242561256225562555256325512557255D255C255B251025142534252C251C2500253C255E255F",
      "255A25542569256625602550256C25672568256425652559255825522553256B256A2518250C25882584258C25902580",
      "03B100DF039303C003A303C300B503C403A6039803A903B4221E03C603B52229226100B1226522642320232100F72248",
      "00B0221900B7221A207F00B225A000A0"]⟩,
   ⟨["cp861", "861", "cp_is", "csibm861", "ibm861"],
     ["00C700FC00E900E200E400E000E500E700EA00EB00E800D000F000DE00C400C500C900E600C600F400F600FE00FB00DD",
      "00FD00D600DC00F800A300D820A7019200E100ED00F300FA00C100CD00D300DA00BF231000AC00BD00BC00A100AB00BB",
      "259125922593250225242561256225562555256325512557255D255C255B251025142534252C251C2500253C255E255F",
      "255A25542569256625602550256C25672568256425652559255825522553256B256A2518250C25882584258C25902580",
      "03B100DF039303C003A303C300B503C403A6039803A903B4221E03C603B52229226100B1226522642320232100F72248",
      "00B0221900B7221A207F00B225A000A0"]⟩,
   ⟨["cp862", "862", "cspc862latinhebrew", "ibm862"],
     ["05D005D105D205D305D405D505D605D705D805D905DA05DB05DC05DD05DE05DF05E005E105E205E305E405E505E605E7",
      "05E805E905EA00A200A300A520A7019200E100ED00F300FA00F100D100AA00BA00BF231000AC00BD00BC00A100AB00BB",
      "259125922593250225242561256225562555256325512557255D255C255B251025142534252C251C2500253C255E255F",
      "255A25542569256625602550256C25672568256425652559255825522553256B256A2518250C25882584258C25902580",
      "03B100DF039303C003A303C300B503C403A6039803A903B4221E03C603B52229226100B1226522642320232100F72248",
      "00B0221900B7221A207F00B225A000A0"]⟩,
   ⟨["cp863", "863", "csibm863", "ibm863"],
     ["00C700FC00E900E200C200E000B600E700EA00EB00E800EF00EE201700C000A700C900C800CA00F400CB00CF00FB00F9",
      "00A400D400DC00A200A300D900DB019200A600B400F300FA00A800B800B300AF00CE231000AC00BD00BC00BE00AB00BB",
      "259125922593250225242561256225562555256325512557255D255C255B251025142534252C251C2500253C255E255F",
      "255A25542569256625602550256C25672568256425652559255825522553256B256A2518250C25882584258C25902580",
      "03B100DF039303C003A303C300B503C403A6039803A903B4221E03C603B52229226100B1226522642320232100F72248",
      "00B0221900B7221A207F00B225A000A0"]⟩,
   ⟨["cp864", "864", "csibm864", "ibm864"],
     ["0000000100020003000400050006000700080009000A000B000C000D000E000F00100011001200130014001500160017",
      "00180019001A001B001C001D001E001F00200021002200230024066A0026002700280029002A002B002C002D002E002F",
      "0030003100320033003400350036003700380039003A003B003C003D003E003F00400041004200430044004500460047",
      "00480049004A004B004C004D004E004F0050005100520053005400550056005700580059005A005B005C005D005E005F",
      "0060006100620063006400650066006700680069006A006B006C006D006E006F00700071007200730074007500760077",
      "00780079007A007B007C007D007E007F00B000B72219221A259225002502253C2524252C251C25342510250C25142518",
      "03B2221E03C600B100BD00BC224800AB00BBFEF7FEF8FFFDFFFDFEFBFEFCFFFD00A000ADFE8200A300A4FE84FFFDFFFD",
      "FE8EFE8FFE95FE99060CFE9DFEA1FEA50660066106620663066406650666066706680669FED1061BFEB1FEB5FEB9061F",
      "00A2FE80FE81FE83FE85FECAFE8BFE8DFE91FE93FE97FE9BFE9FFEA3FEA7FEA9FEABFEADFEAFFEB3FEB7FEBBFEBFFEC1",
      "FEC5FECBFECF00A600AC00F700D7FEC90640FED3FED7FEDBFEDFFEE3FEE7FEEBFEEDFEEFFEF3FEBDFECCFECEFECDFEE1",
      "FE7D0651FEE5FEE9FEECFEF0FEF2FED0FED5FEF5FEF6FEDDFED9FEF125A0FFFD"]⟩,
   ⟨["cp865", "865", "csibm865", "ibm865"],
     ["00C700FC00E900E200E400E000E500E700EA00EB00E800EF00EE00EC00C400C500C900E600C600F400F600F200FB00F9",
      "00FF00D600DC00F800A300D820A7019200E100ED00F300FA00F100D100AA00BA00BF231000AC00BD00BC00A100AB00A4",
      "259125922593250225242561256225562555256325512557255D255C255B251025142534252C251C2500253C255E255F",
      "255A25542569256625602550256C25672568256425652559255825522553256B256A2518250C25882584258C25902580",
      "03B100DF039303C003A303C300B503C403A6039803A903B4221E03C603B52229226100B1226522642320232100F72248",
      "00B0221900B7221A207F00B225A000A0"]⟩,
   ⟨["cp866", "866", "csibm866", "ibm866"],
     ["0410041104120413041404150416041704180419041A041B041C041D041E041F04200421042204230424042504260427",
      "04280429042A042B042C042D042E042F0430043104320433043404350436043704380439043A043B043C043D043E043F",
      "259125922593250225242561256225562555256325512557255D255C255B251025142534252C251C2500253C255E255F",
      "255A25542569256625602550256C25672568256425652559255825522553256B256A2518250C25882584258C25902580",
      "0440044104420443044404450446044704480449044A044B044C044D044E044F040104510404045404070457040E045E",
      "00B0221900B7221A211600A425A000A0"]⟩,
   ⟨["cp869", "869", "cp_gr", "csibm869", "ibm869"],
     ["FFFDFFFDFFFDFFFDFFFDFFFD0386FFFD00B700AC00A620182019038820150389038A03AA038CFFFDFFFD038E03AB00A9",
      "038F00B200B303AC00A303AD03AE03AF03CA039003CC03CD039103920393039403950396039700BD0398039900AB00BB",
      "25912592259325022524039A039B039C039D256325512557255D039E039F251025142534252C251C2500253C03A003A1",
      "255A25542569256625602550256C03A303A403A503A603A703A803A903B103B203B32518250C2588258403B403B52580",
      "03B603B703B803B903BA03BB03BC03BD03BE03BF03C003C103C303C203C4038400AD00B103C503C603C700A703C80385",
      "00B000A803C903CB03B003CE25A000A0"]⟩,
   ⟨["cp874"],
     ["20ACFFFDFFFDFFFDFFFD2026FFFDFFFDFFFDFFFDFFFDFFFDFFFDFFFDFFFDFFFDFFFD20182019201C201D202220132014",
      "FFFDFFFDFFFDFFFDFFFDFFFDFFFDFFFD00A00E010E020E030E040E050E060E070E080E090E0A0E0B0E0C0E0D0E0E0E0F",
      "0E100E110E120E130E140E150E160E170E180E190E1A0E1B0E1C0E1D0E1E0E1F0E200E210E220E230E240E250E260E27",
      "0E280E290E2A0E2B0E2C0E2D0E2E0E2F0E300E310E320E330E340E350E360E370E380E390E3AFFFDFFFDFFFDFFFD0E3F",
      "0E400E410E420E430E440E450E460E470E480E490E4A0E4B0E4C0E4D0E4E0E4F0E500E510E520E530E540E550E560E57",
      "0E580E590E5A0E5BFFFDFFFDFFFDFFFD"]⟩,
   ⟨["cp1006"],
     ["0080008100820083008400850086008700880089008A008B008C008D008E008F00900091009200930094009500960097",
      "00980099009A009B009C009D009E009F00A006F006F106F206F306F406F506F606F706F806F9060C061B00AD061FFE81",
      "FE8DFE8EFE8EFE8FFE91FB56FB58FE93FE95FE97FB66FB68FE99FE9BFE9DFE9FFB7AFB7CFEA1FEA3FEA5FEA7FEA9FB84",
      "FEABFEADFB8CFEAFFB8AFEB1FEB3FEB5FEB7FEB9FEBBFEBDFEBFFEC1FEC5FEC9FECAFECBFECCFECDFECEFECFFED0FED1",
      "FED3FED5FED7FED9FEDBFB92FB94FEDDFEDFFEE0FEE1FEE3FB9EFEE5FEE7FE85FEEDFBA6FBA8FBA9FBAAFE80FE89FE8A",
      "FE8BFEF1FEF2FEF3FBB0FBAEFE7CFE7D"]⟩,
   ⟨["cp1125", "1125", "cp866u", "ibm1125", "ruscii"],
     ["0410041104120413041404150416041704180419041A041B041C041D041E041F04200421042204230424042504260427",
      "04280429042A042B042C042D042E042F0430043104320433043404350436043704380439043A043B043C043D043E043F",
      "259125922593250225242561256225562555256325512557255D255C255B251025142534252C251C2500253C255E255F",
      "255A25542569256625602550256C25672568256425652559255825522553256B256A2518250C25882584258C25902580",
      "0440044104420443044404450446044704480449044A044B044C044D044E044F04010451049004910404045404060456",
      "0407045700B7221A211600A425A000A0"]⟩]

/-- The code pages of mainframes, which place letters elsewhere. -/
def mainframeTables : List ByteTable :=
  [⟨["cp037", "037", "csibm037", "ebcdic_cp_ca", "ebcdic_cp_nl", "ebcdic_cp_us", "ebcdic_cp_wt", "ibm037",
     "ibm039"],
     ["0000000100020003009C00090086007F0097008D008E000B000C000D000E000F0010001100120013009D008500080087",
      "001800190092008F001C001D001E001F00800081008200830084000A0017001B00880089008A008B008C000500060007",
      "0090009100160093009400950096000400980099009A009B00140015009E001A002000A000E200E400E000E100E300E5",
      "00E700F100A2002E003C0028002B007C002600E900EA00EB00E800ED00EE00EF00EC00DF00210024002A0029003B00AC",
      "002D002F00C200C400C000C100C300C500C700D100A6002C0025005F003E003F00F800C900CA00CB00C800CD00CE00CF",
      "00CC0060003A002300400027003D002200D800610062006300640065006600670068006900AB00BB00F000FD00FE00B1",
      "00B0006A006B006C006D006E006F00700071007200AA00BA00E600B800C600A400B5007E007300740075007600770078",
      "0079007A00A100BF00D000DD00DE00AE005E00A300A500B700A900A700B600BC00BD00BE005B005D00AF00A800B400D7",
      "007B00410042004300440045004600470048004900AD00F400F600F200F300F5007D004A004B004C004D004E004F0050",
      "0051005200B900FB00FC00F900FA00FF005C00F70053005400550056005700580059005A00B200D400D600D200D300D5",
      "003000310032003300340035003600370038003900B300DB00DC00D900DA009F"]⟩,
   ⟨["cp273", "273", "csibm273", "ibm273"],
     ["0000000100020003009C00090086007F0097008D008E000B000C000D000E000F0010001100120013009D008500080087",
      "001800190092008F001C001D001E001F00800081008200830084000A0017001B00880089008A008B008C000500060007",
      "0090009100160093009400950096000400980099009A009B00140015009E001A002000A000E2007B00E000E100E300E5",
      "00E700F100C4002E003C0028002B0021002600E900EA00EB00E800ED00EE00EF00EC007E00DC0024002A0029003B005E",
      "002D002F00C2005B00C000C100C300C500C700D100F6002C0025005F003E003F00F800C900CA00CB00C800CD00CE00CF",
      "00CC0060003A002300A70027003D002200D800610062006300640065006600670068006900AB00BB00F000FD00FE00B1",
      "00B0006A006B006C006D006E006F00700071007200AA00BA00E600B800C600A400B500DF007300740075007600770078",
      "0079007A00A100BF00D000DD00DE00AE00A200A300A500B700A9004000B600BC00BD00BE00AC007C203E00A800B400D7",
      "00E400410042004300440045004600470048004900AD00F400A600F200F300F500FC004A004B004C004D004E004F0050",
      "0051005200B900FB007D00F900FA00FF00D600F70053005400550056005700580059005A00B200D4005C00D200D300D5",
      "003000310032003300340035003600370038003900B300DB005D00D900DA009F"]⟩,
   ⟨["cp424", "424", "csibm424", "ebcdic_cp_he", "ibm424"],
     ["0000000100020003009C00090086007F0097008D008E000B000C000D000E000F0010001100120013009D008500080087",
      "001800190092008F001C001D001E001F00800081008200830084000A0017001B00880089008A008B008C000500060007",
      "0090009100160093009400950096000400980099009A009B00140015009E001A002005D005D105D205D305D405D505D6",
      "05D705D800A2002E003C0028002B007C002605D905DA05DB05DC05DD05DE05DF05E005E100210024002A0029003B00AC",
      "002D002F05E205E305E405E505E605E705E805E900A6002C0025005F003E003FFFFD05EAFFFDFFFD00A0FFFDFFFDFFFD",
      "20170060003A002300400027003D0022FFFD00610062006300640065006600670068006900AB00BBFFFDFFFDFFFD00B1",
      "00B0006A006B006C006D006E006F007000710072FFFDFFFDFFFD00B8FFFD00A400B5007E007300740075007600770078",
      "0079007AFFFDFFFDFFFDFFFDFFFD00AE005E00A300A500B700A900A700B600BC00BD00BE005B005D00AF00A800B400D7",
      "007B00410042004300440045004600470048004900ADFFFDFFFDFFFDFFFDFFFD007D004A004B004C004D004E004F0050",
      "0051005200B9FFFDFFFDFFFDFFFDFFFD005C00F70053005400550056005700580059005A00B2FFFDFFFDFFFDFFFDFFFD",
      "003000310032003300340035003600370038003900B3FFFDFFFDFFFDFFFD009F"]⟩,
   ⟨["cp500", "500", "csibm500", "ebcdic_cp_be", "ebcdic_cp_ch", "ibm500"],
     ["0000000100020003009C00090086007F0097008D008E000B000C000D000E000F0010001100120013009D008500080087",
      "001800190092008F001C001D001E001F00800081008200830084000A0017001B00880089008A008B008C000500060007",
      "0090009100160093009400950096000400980099009A009B00140015009E001A002000A000E200E400E000E100E300E5",
      "00E700F1005B002E003C0028002B0021002600E900EA00EB00E800ED00EE00EF00EC00DF005D0024002A0029003B005E",
      "002D002F00C200C400C000C100C300C500C700D100A6002C0025005F003E003F00F800C900CA00CB00C800CD00CE00CF",
      "00CC0060003A002300400027003D002200D800610062006300640065006600670068006900AB00BB00F000FD00FE00B1",
      "00B0006A006B006C006D006E006F00700071007200AA00BA00E600B800C600A400B5007E007300740075007600770078",
      "0079007A00A100BF00D000DD00DE00AE00A200A300A500B700A900A700B600BC00BD00BE00AC007C00AF00A800B400D7",
      "007B00410042004300440045004600470048004900AD00F400F600F200F300F5007D004A004B004C004D004E004F0050",
      "0051005200B900FB00FC00F900FA00FF005C00F70053005400550056005700580059005A00B200D400D600D200D300D5",
      "003000310032003300340035003600370038003900B300DB00DC00D900DA009F"]⟩,
   ⟨["cp875"],
     ["0000000100020003009C00090086007F0097008D008E000B000C000D000E000F0010001100120013009D008500080087",
      "001800190092008F001C001D001E001F00800081008200830084000A0017001B00880089008A008B008C000500060007",
      "0090009100160093009400950096000400980099009A009B00140015009E001A00200391039203930394039503960397",
      "03980399005B002E003C0028002B00210026039A039B039C039D039E039F03A003A103A3005D0024002A0029003B005E",
      "002D002F03A403A503A603A703A803A903AA03AB007C002C0025005F003E003F00A803860388038900A0038A038C038E",
      "038F0060003A002300400027003D0022038500610062006300640065006600670068006903B103B203B303B403B503B6",
      "00B0006A006B006C006D006E006F00700071007203B703B803B903BA03BB03BC00B4007E007300740075007600770078",
      "0079007A03BD03BE03BF03C003C103C300A303AC03AD03AE03CA03AF03CC03CD03CB03CE03C203C403C503C603C703C8",
      "007B00410042004300440045004600470048004900AD03C9039003B020182015007D004A004B004C004D004E004F0050",
      "0051005200B100BD001A0387201900A6005C001A0053005400550056005700580059005A00B200A7001A001A00AB00AC",
      "003000310032003300340035003600370038003900B300A9001A001A00BB009F"]⟩,
   ⟨["cp1026", "1026", "csibm1026", "ibm1026"],
     ["0000000100020003009C00090086007F0097008D008E000B000C000D000E000F0010001100120013009D008500080087",
      "001800190092008F001C001D001E001F00800081008200830084000A0017001B00880089008A008B008C000500060007",
      "0090009100160093009400950096000400980099009A009B00140015009E001A002000A000E200E400E000E100E300E5",
      "007B00F100C7002E003C0028002B0021002600E900EA00EB00E800ED00EE00EF00EC00DF011E0130002A0029003B005E",
      "002D002F00C200C400C000C100C300C5005B00D1015F002C0025005F003E003F00F800C900CA00CB00C800CD00CE00CF",
      "00CC0131003A00D6015E0027003D00DC00D800610062006300640065006600670068006900AB00BB007D006000A600B1",
      "00B0006A006B006C006D006E006F00700071007200AA00BA00E600B800C600A400B500F6007300740075007600770078",
      "0079007A00A100BF005D0024004000AE00A200A300A500B700A900A700B600BC00BD00BE00AC007C00AF00A800B400D7",
      "00E700410042004300440045004600470048004900AD00F4007E00F200F300F5011F004A004B004C004D004E004F0050",
      "0051005200B900FB005C00F900FA00FF00FC00F70053005400550056005700580059005A00B200D4002300D200D300D5",
      "003000310032003300340035003600370038003900B300DB002200D900DA009F"]⟩,
   ⟨["cp1140", "1140", "ibm1140"],
     ["0000000100020003009C00090086007F0097008D008E000B000C000D000E000F0010001100120013009D008500080087",
      "001800190092008F001C001D001E001F00800081008200830084000A0017001B00880089008A008B008C000500060007",
      "0090009100160093009400950096000400980099009A009B00140015009E001A002000A000E200E400E000E100E300E5",
      "00E700F100A2002E003C0028002B007C002600E900EA00EB00E800ED00EE00EF00EC00DF00210024002A0029003B00AC",
      "002D002F00C200C400C000C100C300C500C700D100A6002C0025005F003E003F00F800C900CA00CB00C800CD00CE00CF",
      "00CC0060003A002300400027003D002200D800610062006300640065006600670068006900AB00BB00F000FD00FE00B1",
      "00B0006A006B006C006D006E006F00700071007200AA00BA00E600B800C620AC00B5007E007300740075007600770078",
      "0079007A00A100BF00D000DD00DE00AE005E00A300A500B700A900A700B600BC00BD00BE005B005D00AF00A800B400D7",
      "007B00410042004300440045004600470048004900AD00F400F600F200F300F5007D004A004B004C004D004E004F0050",
      "0051005200B900FB00FC00F900FA00FF005C00F70053005400550056005700580059005A00B200D400D600D200D300D5",
      "003000310032003300340035003600370038003900B300DB00DC00D900DA009F"]⟩]

end LocaleGen.Charset
